import FontAccessors.CommandLine.Run

namespace FontAccessors

def FileError.ofNumber (number : UInt32) (reason : String) : FileError :=
  match if number < 4096 then number else -number with
  | 2 => notFound
  | 17 => alreadyExists
  | 20 => notDirectory
  | 21 => isDirectory
  | 36 => nameTooLong
  | n => failed (reason ++ " (os error " ++ toString n ++ ")")

def FileError.ofSystem : IO.Error → FileError
  | .noFileOrDirectory _ n reason | .inappropriateType _ n reason | .alreadyExists _ n reason
  | .permissionDenied _ n reason | .invalidArgument _ n reason | .resourceExhausted _ n reason
  | .noSuchThing _ n reason | .interrupted _ n reason | .resourceBusy n reason
  | .resourceVanished n reason | .hardwareFault n reason | .illegalOperation n reason
  | .protocolError n reason | .timeExpired n reason | .unsatisfiedConstraints n reason
  | .unsupportedOperation n reason | .otherError n reason => ofNumber n reason
  | e => failed (toString e)

def attempt {α : Type} (action : IO α) : IO (Except FileError α) := do
  match ← action.toBaseIO with
  | .ok a => return .ok a
  | .error e => return .error (.ofSystem e)

instance : Files IO where
  read path := attempt (IO.FS.readBinFile path)
  write path bytes := attempt (IO.FS.writeBinFile path bytes)
  makeDirectory path := attempt (IO.FS.createDir path)
  -- Only in a directory is there a dot.
  isDirectory path := do
    return (← attempt (IO.FS.createDir (path ++ "/."))) matches .error .alreadyExists

end FontAccessors

def main (arguments : List String) : IO UInt32 := do
  let out ← FontAccessors.CommandLine.run arguments (← IO.getEnv "RUST_LOG")
  (← IO.getStderr).putStr out.stderr
  (← IO.getStdout).putStr out.stdout
  return out.status

