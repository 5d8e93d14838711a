import TraitRoutes.Syntax.Printer

/-!
# Declarations

A trait as it was found in a source: its declaration together with the module
and the place it was found in, and the names of all traits it extends, directly
or through others.
-/

namespace TraitRoutes

/-- A place in a file. -/
structure Location where
  file : String
  line : Nat
  column : Nat
deriving DecidableEq, Repr, Inhabited

/-- The location as messages show it. -/
def Location.text (l : Location) : String :=
  l.file ++ ":" ++ toString l.line ++ ":" ++ toString l.column

/-- A declared trait. -/
structure Declaration where
  ident : Ident
  /-- The module of the trait. -/
  space : String
  attrs : List Attribute
  generics : Generics
  /-- The names of its supertraits as written, in order. -/
  supertraits : List String
  methods : List Method
  location : Location
  /-- Every name that the supertraits lead to. -/
  capabilities : List String := []

/-- The name of a declared trait, without `r#`. -/
def Declaration.name (d : Declaration) : String := d.ident.name

/-- The name of a declared trait with its module. -/
def Declaration.qualifiedName (d : Declaration) : String := d.space ++ "::" ++ d.name

end TraitRoutes
