/-
The C side of a VFS call: binding.c maps the first argument of the callback to a
status, and the second one to the result of a call that succeeded.
-/

import ParaQL.Vfs

namespace ParaQL

open Async Bytes

/-- The path that `ParaQL._open` passes to `binding.open`.  `paravfs__on_fullpathname` and
`paravfs__on_open` leave it as it is, so it is the name of the main file in VFS calls. -/
def openPath : FileName := "paraql.db"

def sqliteOk : Int := 0

def errorFrom (value : JsValue) (code : Int) : Int :=
  match value with
  | .null => sqliteOk
  | .undefined => sqliteOk
  | _ => code

/-- The code each `paravfs__on_*_done` passes to `paravfs__error_from`. -/
def VfsCall.errorCode : VfsCall → Int
  | .xDelete _ => 2570
  | .xAccess _ => 3338
  | .xRead _ _ _ => 266
  | .xWrite _ _ _ => 778
  | .xTruncate _ _ => 10
  | .xSync _ => 10
  | .xSize _ => 1802

/-- What the native caller gets: the status, the value behind its pointer (when the
status is `SQLITE_OK` and the call has one) and the bytes that it lent. -/
structure NativeReply where
  status : Int
  value : JsValue
  buffer : Buffer
  deriving DecidableEq, Repr

def nativeReply (call : VfsCall) (reply : VfsReply) : NativeReply :=
  let status := errorFrom (reply.args.headD .undefined) call.errorCode
  { status := status
    value := if status = sqliteOk then (reply.args.drop 1).headD .undefined else .undefined
    buffer := reply.buffer }

theorem VfsCall.errorCode_ne_ok (call : VfsCall) : call.errorCode ≠ sqliteOk := by
  cases call <;> simp [errorCode, sqliteOk]

namespace ParaVFS

def native (vfs : ParaVFS) (call : VfsCall) : VfsTask NativeReply := do
  let reply ← vfs.perform call
  pure (nativeReply call reply)

end ParaVFS
end ParaQL
