import FontAccessors.Accessor.Module

namespace FontAccessors

structure Manifest where
  cratePath : Option String
  families : List Family
  deriving DecidableEq, Repr

def Module.cratePath (requested own : Option String) : String :=
  (requested.or own).getD Settings.defaultCratePath

end FontAccessors
