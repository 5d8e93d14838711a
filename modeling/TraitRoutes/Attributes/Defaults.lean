import TraitRoutes.Grammar.Parser

/-!
# Lists of defaults

The arguments of `default_value`: parameter names, separated by commas, each with
a literal behind an equals sign or without one. Numbers may have a minus in front,
and since a number may bring its own minus, there may be two. A name is listed
once.
-/

namespace TraitRoutes

/-- An entry of a list of defaults. -/
structure DefaultEntry where
  name : Ident
  /-- The literal as written; without one the default of the type is meant. -/
  literal : Option String
deriving DecidableEq, Repr

namespace DefaultEntry

/-- An error at the given tokens. -/
def failAt (ts : List Token) (fault : SyntaxFault) : SyntaxError := ⟨ts.isEmpty, fault⟩

/-- The complaint about a literal that is no default. -/
def notAllowed : SyntaxError :=
  ⟨false, .refused "expected a number, bool, char or string literal"⟩

/-- A literal as written, unless it is no default. A minus only goes with
numbers. -/
def literalText (negative : Bool) : LitValue → Except SyntaxError String
  | .negative l => .ok ((if negative then "-" else "") ++ "-" ++ l.text)
  | .bool b => if negative then .error notAllowed else .ok (if b then "true" else "false")
  | .token l =>
    match l.kind with
    | .integer | .float => .ok ((if negative then "-" else "") ++ l.text)
    | .string | .char => if negative then .error notAllowed else .ok l.text
    | _ => .error notAllowed

/-- Reads the literal of an entry. -/
def readLiteral (ts : List Token) : Except SyntaxError (String × List Token) :=
  let negative := Ahead.op "-" ts
  let behind := if negative then ts.tail else ts
  match Ahead.literal behind with
  | none => .error (failAt behind (.expected ["literal"]))
  | some (value, rest) => (literalText negative value).map (·, rest)

/-- Reads one entry. -/
def read (ts : List Token) : Except SyntaxError (DefaultEntry × List Token) :=
  match ts with
  | .ident i _ :: rest =>
    if i.isReserved then .error (failAt ts (.keyword i.name))
    else if Ahead.op "=" rest then
      (readLiteral rest.tail).map fun (text, rest) => (⟨i, some text⟩, rest)
    else .ok (⟨i, none⟩, rest)
  | _ => .error (failAt ts (.expected ["identifier"]))

theorem length_literal_lt {ts rest : List Token} {value : LitValue}
    (h : Ahead.literal ts = some (value, rest)) : rest.length < ts.length := by
  unfold Ahead.literal at h
  split at h
  · simp_all
  · split at h
    · simp at h
    · split at h
      · simp_all
      · split at h
        · simp_all
        · simp at h
  · split at h
    · simp only [Option.some.injEq, Prod.mk.injEq] at h
      rw [← h.2]
      simp only [List.length_cons]
      omega
    · simp at h
  · simp at h

theorem length_readLiteral_lt {ts rest : List Token} {text : String}
    (h : readLiteral ts = .ok (text, rest)) : rest.length < ts.length := by
  simp only [readLiteral] at h
  split at h
  · simp at h
  · rename_i value rest' hl
    have hlt := length_literal_lt hl
    cases hv : literalText (Ahead.op "-" ts) value with
    | error e => rw [hv] at h; simp [Except.map] at h
    | ok t =>
      rw [hv] at h
      simp [Except.map] at h
      obtain ⟨_, rfl⟩ := h
      split at hlt
      · simp at hlt; omega
      · exact hlt

theorem length_read_lt {ts rest : List Token} {e : DefaultEntry}
    (h : read ts = .ok (e, rest)) : rest.length < ts.length := by
  unfold read at h
  split at h
  · rename_i i p tail
    split at h
    · simp at h
    · split at h
      · cases hr : readLiteral tail.tail with
        | error e => rw [hr] at h; simp [Except.map] at h
        | ok v =>
          obtain ⟨text, after⟩ := v
          rw [hr] at h
          simp [Except.map] at h
          obtain ⟨_, rfl⟩ := h
          have := length_readLiteral_lt hr
          simp at this ⊢
          omega
      · simp at h
        obtain ⟨_, rfl⟩ := h
        simp
  · simp at h

/-- Reads entries up to the end. -/
def readAll (ts : List Token) : Except SyntaxError (List DefaultEntry) :=
  if ts.isEmpty then .ok []
  else
    match _found : read ts with
    | .error e => .error e
    | .ok (entry, rest) =>
      if rest.isEmpty then .ok [entry]
      else if Ahead.op "," rest then (readAll rest.tail).map (entry :: ·)
      else .error (failAt rest (.expected ["`,`"]))
termination_by ts.length
decreasing_by
  have := length_read_lt _found
  simp
  omega

/-- The first entry whose name an earlier one has. -/
def firstRepeated? : List String → List DefaultEntry → Option DefaultEntry
  | _, [] => none
  | seen, e :: rest =>
    if seen.contains e.name.text then some e else firstRepeated? (e.name.text :: seen) rest

/-- Inserts an entry into a list in the order of names. -/
def insert (e : DefaultEntry) : List DefaultEntry → List DefaultEntry
  | [] => [e]
  | first :: rest =>
    if e.name.text < first.name.text then e :: first :: rest else first :: insert e rest

/-- Reads a list of defaults; the entries come in the order of their names. -/
def parse (ts : List Token) : Except SyntaxError (List DefaultEntry) := do
  let entries ← readAll ts
  match firstRepeated? [] entries with
  | some e => throw ⟨false, .refused ("parameter `" ++ e.name.text ++ "` is listed twice")⟩
  | none => pure (entries.foldr insert [])

end DefaultEntry

end TraitRoutes
