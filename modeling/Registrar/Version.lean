/-! Version numbers in up to three parts. -/
namespace Registrar

structure Version where
  full : String
  major : String
  minor : String
  patch : String
  deriving DecidableEq

namespace Version

/-- Splits a version at its dots. Missing parts are zero, further ones are left aside. -/
def ofText (full : String) : Version :=
  let parts := (full.toList.splitOn '.').map String.ofList
  { full, major := parts.getD 0 "0", minor := parts.getD 1 "0", patch := parts.getD 2 "0" }

/-- The version of this program. -/
def current : Version := ofText "0.1.0"

end Version
end Registrar
