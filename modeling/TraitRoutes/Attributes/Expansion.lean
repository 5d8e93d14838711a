import TraitRoutes.Attributes.Helper

/-!
# Expansion

In the source itself a helper attribute only checks its arguments and what it is
attached to, and leaves that as it is. A mistake is reported by a compile error in
front of it, so that nothing else fails for want of the item.
-/

namespace TraitRoutes

namespace Expansion

/-- The tokens that report an error where they stand. -/
def compileError (message : String) : List Token :=
  Token.operator [':', ':'] ++ [.word "core"] ++ Token.operator [':', ':']
    ++ [.word "compile_error", .lone '!',
      .group .brace [.literal ⟨.string, Text.quoteText message⟩]]

/-- An item with the errors in front of it, of which there may be none. -/
def withErrors (messages : List String) (item : List Token) : List Token :=
  messages.flatMap compileError ++ item

/-- The complaint about an item of the wrong kind. -/
def misplaced (h : Helper) (what : String) : String := "#[" ++ h.name ++ "] applies to " ++ what

/-- Requires a trait. -/
def expectTrait (h : Helper) (item : List Token) : Except String TraitDecl :=
  (readTrait item).mapError fun _ => misplaced h "traits"

/-- Requires a method. -/
def expectMethod (h : Helper) (item : List Token) : Except String Method :=
  (readMethod item).mapError fun _ => misplaced h "trait methods"

/-- Whether a method has a parameter bound to a name. -/
def declares (m : Method) (name : String) : Bool :=
  m.sig.inputs.any fun i => (i.pattern.name.map fun n => n.text == name).getD false

/-- Requires the names of all entries to be parameters. -/
def checkDeclared (m : Method) (entries : List DefaultEntry) : Except String Unit :=
  match entries.find? fun e => !declares m e.name.text with
  | some e =>
    .error ("parameter `" ++ e.name.text ++ "` is listed in #[default_value] but not declared")
  | none => .ok ()

/-- The check of an attribute with one complaint at most. -/
def check (h : Helper) (args item : List Token) : Except String Unit := do
  match h with
  | .routePrefix =>
    let _ ← (Helper.readPrefix args).mapError SyntaxError.message
    let _ ← expectTrait h item
  | .explorerSettings => let _ ← expectTrait h item
  | .httpMethod =>
    let _ ← (Helper.readVerb args).mapError SyntaxError.message
    let _ ← expectMethod h item
  | .defaultValue =>
    let entries ← (DefaultEntry.parse args).mapError SyntaxError.message
    checkDeclared (← expectMethod h item) entries

/-- The complaints about an attribute and its item. -/
def complaints (h : Helper) (args item : List Token) : List String :=
  let settings := match h with
    | .explorerSettings => ExplorerSettings.parse args
    | _ => .ok {}
  match settings with
  | .error e => e.faults.map fun f => f.problem.message
  | .ok _ =>
    match check h args item with
    | .error message => [message]
    | .ok () => []

end Expansion

/-- What an item becomes under an attribute. -/
def Helper.expand (h : Helper) (args item : List Token) : List Token :=
  Expansion.withErrors (Expansion.complaints h args item) item

end TraitRoutes
