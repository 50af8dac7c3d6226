import AsmFixtures.Text.Quoted

/-! The variables of the environment that matter here. A variable that is set to the empty
text is set. -/

namespace AsmFixtures

abbrev Environment := List (String × String)

namespace Environment

def names : List String :=
  ["SILENCELOG", "X86ASMTEST_CACHE_DIR", "XDG_CACHE_HOME", "HOME", "XED_INCLUDE_DIR",
   "XED_LIBRARY_DIR"]

def get? (env : Environment) (name : String) : Option String := env.lookup name

def set (env : Environment) (name value : String) : Environment :=
  (name, value) :: env.filter (·.1 ≠ name)

def silence (env : Environment) : Option String := env.get? "SILENCELOG"

@[simp] theorem get?_set (env : Environment) (name value : String) :
    (env.set name value).get? name = some value := by
  simp [get?, set]

end Environment

end AsmFixtures
