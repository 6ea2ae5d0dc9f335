import Lccc.Except
import Lccc.Xlang.Struct
import Lccc.Abi.Vec
import Lccc.Abi.VecSound
import Lccc.Abi.VecBounds
import Lccc.Abi.IntoIterSound
import Lccc.Abi.VecDrop
import Lccc.Xir.TypeState
import Lccc.Xir.Validate
import Lccc.Xir.Run
import Lccc.Xir.ControlFlow
import Lccc.Xir.Passes
import Lccc.Xir.Unify
import Lccc.Xir.Opcodes
import Lccc.Xir.Frame
import Lccc.Xir.Backfill
import Lccc.Xir.Effect
import Lccc.Rust.Sema
import Lccc.Rust.Typeck
import Lccc.Rust.Convert
import Lccc.C.Parse
import Lccc.C.ParseLoops
import Lccc.C.ParseProgress
import Lccc.C.RoundTrip
import Lccc.C.ParseImage
import Lccc.Driver
import Lccc.DriverSound
import Lccc.Driver.Link
