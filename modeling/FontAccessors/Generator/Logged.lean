import FontAccessors.FileTree.Access
import FontAccessors.Log.Basic
import FontAccessors.Manifest.Reader

namespace FontAccessors

inductive Failure where
  | noSource
  | unreadable (path : String) (error : FileError)
  | unusable (path : String) (error : Manifest.Error)
  | refused (error : GenerateError)
  | unsaved (error : SaveError)
  deriving DecidableEq, Repr

def Failure.message : Failure → String
  | noSource => "either --manifest or --type-name is required"
  | unreadable path e => "Failed to read manifest " ++ path ++ ": " ++ e.message
  | unusable path e => "Failed to parse manifest " ++ path ++ ": " ++ e.message
  | refused e => e.message
  | unsaved e => e.message

structure Logged (α : Type) where
  outcome : Except Failure α
  records : List Log.Record

namespace Logged
variable {α β : Type}

def ok (a : α) (records : List Log.Record) : Logged α :=
  ⟨.ok a, records⟩

def failed (e : Failure) (records : List Log.Record) : Logged α :=
  ⟨.error e, records⟩

def andThen (x : Logged α) (f : α → Logged β) : Logged β :=
  match x.outcome with
  | .ok a => ⟨(f a).outcome, x.records ++ (f a).records⟩
  | .error e => ⟨.error e, x.records⟩

end Logged
end FontAccessors
