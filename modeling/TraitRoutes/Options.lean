import TraitRoutes.Unicode.Blank

/-!
# Options

The settings of one generation pass, and the switch in the environment that turns
generation off: any value but the empty text, `0` and `false`.
-/

namespace TraitRoutes

/-- The settings of a generation pass. -/
structure Options where
  /-- The trait that a trait must extend to get a controller. -/
  marker : String := "DynamicController"
  /-- What the name of a controller ends in. -/
  unitSuffix : String := "Controller"
  /-- Further types that are bound like scalars. -/
  simpleTypes : List String := []
  /-- Nothing is generated. -/
  disabled : Bool := false
deriving DecidableEq, Repr, Inhabited

/-- The variable that turns generation off. -/
def Options.switchName : String := "PREVENT_DYNAMIC_API_GENERATION"

/-- Whether the value of the switch turns generation off. -/
def Options.switchedOff (value : String) : Bool :=
  let cs := Unicode.trim value.toList
  !(cs.isEmpty || cs == ['0'] || cs.map Char.toLower == "false".toList)

/-- The default settings under a value of the switch, if it is set. -/
def Options.ofSwitch (value : Option String) : Options :=
  { disabled := (value.map switchedOff).getD false }

end TraitRoutes
