import QueryChain.Json.Reader

namespace QueryChain

open Json

/-! Settings of a compilation. -/

structure Settings where
  /-- What the name of a parameter starts with; its number follows. -/
  stem : String := "p"
  /-- The most parameters one statement may bind. -/
  limit : Nat := 2100
deriving DecidableEq, Repr

namespace Settings

def readMember (settings : Settings) (name : String) (value : Value) :
    Except ReadError Settings := do
  if name = "parameter_prefix" then
    return { settings with stem := ← Reader.string value }
  else if name = "max_parameters" then
    return { settings with limit := ← Reader.size value }
  else
    return settings

/-- Settings are an object, its unknown members ignored, or an array of the
fields in order.  What is absent keeps its default. -/
def read : Reader Settings
  | .object members =>
    members.foldlM (fun settings (name, value) => settings.readMember name value) {}
  | .array [] => .ok {}
  | .array [stem] => do return { stem := ← Reader.string stem }
  | .array (stem :: limit :: rest) => do
    let settings : Settings := { stem := ← Reader.string stem, limit := ← Reader.size limit }
    if rest.isEmpty then return settings else throw (.tooLong (rest.length + 2))
  | other => .error (.wrongType other "struct TranslatorConfig")

end Settings

end QueryChain
