import SheetTables.Grid.Value
import SheetTables.Matching.Builder

/-! # Scripts

A script is a condition written as text, in a language that comes from outside. It is compiled
when the matcher is built, sees the subject under a name, and counts as not satisfied where it
cannot be evaluated.
-/

namespace SheetTables

abbrev Bindings := List (String × Value)

abbrev CompiledScript := Bindings → Except String Bool

/-- A language of scripts, which compiles a text or says why it does not. -/
structure ScriptLanguage where
  compile : String → Except String CompiledScript

def scriptSubject : String := "value"

def bindingsOf (v : Value) : Bindings := [(scriptSubject, v)]

def Matcher.Step.script {α : Type} (language : ScriptLanguage) (source : String)
    (binding : α → Value) : Step α :=
  match language.compile source with
  | .ok script =>
    let test := fun a => match script (bindingsOf (binding a)) with
      | .ok holds => holds
      | .error _ => false
    .leaf test none
  | .error reason => .refused (.scriptRefused source reason)

end SheetTables
