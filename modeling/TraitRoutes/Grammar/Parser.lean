import TraitRoutes.Syntax.Printer

/-!
# Parsing token forests

A parser reads tokens from the front of a sequence, never looks behind, and may
fail. What it leaves is an end of what was ahead of it, which its type says. Beside
its result it leaves a trail: the tokens it took, each operator written out on its
own, so that what was read can be printed without a tree for it. What a parser leaves
unread inside a bracketed group is noted rather than refused, and only refused when
everything else has been read.

The wordings of the grammar are fixed, but for the keyword or the alternatives that
they name. Each is one line whatever is read, and its error carries the proof.

Alternatives are decided by looking at the tokens ahead, in the functions of
`Ahead`; those are plain tests on token lists.
-/

namespace TraitRoutes

/-! ### Errors -/

/-- What was wrong at the place where reading stopped. -/
inductive SyntaxFault where
  /-- None of the alternatives stood there. -/
  | expected (alternatives : List String)
  /-- A keyword stood where an identifier belongs. -/
  | keyword (name : String)
  /-- Something was left unread before the end of a group, or of the text. -/
  | unexpected (group : Option Delimiter)
  /-- A rule beside the grammar was broken. -/
  | refused (reason : String)
deriving DecidableEq, Repr

/-- A syntax error. -/
structure SyntaxError where
  /-- The tokens had come to an end there. -/
  atEnd : Bool
  fault : SyntaxFault
deriving DecidableEq, Repr

/-- The closing mark of a group, as messages show it. -/
def Delimiter.closing : Delimiter → String
  | .paren => "`)`"
  | .bracket => "`]`"
  | .brace => "`\x7d`"

/-- The wording of a fault. -/
def SyntaxFault.message : SyntaxFault → String
  | .expected [] => "unexpected token"
  | .expected [one] => "expected " ++ one
  | .expected [one, other] => "expected " ++ one ++ " or " ++ other
  | .expected many => "expected one of: " ++ ", ".intercalate many
  | .keyword name => "expected identifier, found keyword `" ++ name ++ "`"
  | .unexpected none => "unexpected token"
  | .unexpected (some d) => "unexpected token, expected " ++ d.closing
  | .refused reason => reason

/-- The wording of a syntax error. -/
def SyntaxError.message (e : SyntaxError) : String :=
  if e.atEnd then
    match e.fault with
    | .expected [] => "unexpected end of input"
    | fault => "unexpected end of input, " ++ fault.message
  else e.fault.message

/-- Whether a text is one line. -/
def Text.isOneLine (text : String) : Bool := text.toList.all fun c => c != '\n' && c != '\r'

theorem Text.isOneLine_ofList {cs : List Char}
    (h : (cs.all fun c => c != '\n' && c != '\r') = true) :
    isOneLine (String.ofList cs) = true := by
  rw [isOneLine, String.toList_ofList]
  exact h

theorem Text.isOneLine_append (a b : String) :
    isOneLine (a ++ b) = (isOneLine a && isOneLine b) := by
  rw [isOneLine, String.toList_append, List.all_append]
  rfl

/-- A line around a text. -/
theorem Text.isOneLine_between {before after : String} (hbefore : isOneLine before = true)
    (text : String) (hafter : isOneLine after = true) :
    isOneLine (before ++ text ++ after) = isOneLine text := by
  rw [isOneLine_append, isOneLine_append, hbefore, hafter, Bool.true_and, Bool.and_true]

/-- Whether the wording of a fault is one line. -/
def SyntaxFault.isOneLine : SyntaxFault → Bool
  | .expected alternatives => alternatives.all Text.isOneLine
  | .keyword name => Text.isOneLine name
  | .unexpected _ => true
  | .refused reason => Text.isOneLine reason

/-- An error of the grammar. -/
structure GrammarError where
  error : SyntaxError
  oneLine : error.fault.isOneLine = true

theorem Ident.isOneLine_name (i : Ident) : Text.isOneLine i.name = true := by
  have hstart : ∀ c, Unicode.isIdentStart c = true → (c != '\n' && c != '\r') = true := by
    intro c hc
    rw [Bool.and_eq_true, bne_iff_ne, bne_iff_ne]
    constructor <;> rintro rfl <;> exact absurd hc (by decide)
  have hcontinue : ∀ c, Unicode.isIdentContinue c = true → (c != '\n' && c != '\r') = true := by
    intro c hc
    rw [Bool.and_eq_true, bne_iff_ne, bne_iff_ne]
    constructor <;> rintro rfl <;> exact absurd hc (by decide)
  have hlegal := i.legal
  rw [Text.isOneLine]
  cases hname : i.name.toList with
  | nil => rfl
  | cons c rest =>
      rw [hname, Ident.isLegal, Bool.and_eq_true, List.all_eq_true] at hlegal
      rw [List.all_cons, Bool.and_eq_true, List.all_eq_true]
      exact ⟨hstart c hlegal.1, fun d hd => hcontinue d (hlegal.2 d hd)⟩

/-! ### Looking ahead -/

/-- Words that are no identifiers. -/
def reservedWords : List String :=
  ["_", "abstract", "as", "async", "await", "become", "box", "break", "const", "continue", "crate",
   "do", "dyn", "else", "enum", "extern", "false", "final", "fn", "for", "if", "impl", "in", "let",
   "loop", "macro", "match", "mod", "move", "mut", "override", "priv", "pub", "ref", "return",
   "Self", "self", "static", "struct", "super", "trait", "true", "try", "type", "typeof", "unsafe",
   "unsized", "use", "virtual", "where", "while", "yield"]

/-- Whether an identifier is one of the reserved words. A raw one never is. -/
def Ident.isReserved (i : Ident) : Bool := !i.raw && reservedWords.contains i.name

namespace Ahead

/-- The next token is this word. -/
def word (w : String) : List Token → Bool
  | .ident i _ :: _ => !i.raw && i.name == w
  | _ => false

/-- The next token is one of these words. -/
def oneOf (ws : List String) (ts : List Token) : Bool := ws.any (word · ts)

/-- The next token is a word, reserved or not. -/
def anyWord : List Token → Bool
  | .ident .. :: _ => true
  | _ => false

/-- The next token is an identifier. -/
def ident : List Token → Bool
  | .ident i _ :: _ => !i.isReserved
  | _ => false

/-- The next tokens are these punctuation characters, joined to one another. -/
def chars : List Char → List Token → Bool
  | [], _ => true
  | [c], .punct d _ :: _ => c == d
  | c :: more, .punct d joint :: rest => c == d && joint && chars more rest
  | _, _ => false

/-- The next tokens make up this operator, or begin with it. -/
def op (text : String) (ts : List Token) : Bool := chars text.toList ts

/-- The next tokens make up one of these operators. -/
def anyOp (texts : List String) (ts : List Token) : Bool := texts.any (op · ts)

/-- The next token is a group. -/
def group (d : Delimiter) : List Token → Bool
  | .group e _ :: _ => d == e
  | _ => false

/-- The next tokens are a lifetime. -/
def lifetime : List Token → Bool
  | .punct '\'' true :: .ident .. :: _ => true
  | _ => false

/-- The next token is a string literal. -/
def text : List Token → Bool
  | .literal l :: _ => l.kind == .string
  | _ => false

/-- The literal value that comes next, with the rest. A minus belongs to a
number that follows it. -/
def literal : List Token → Option (LitValue × List Token)
  | .literal l :: rest => some (.token l, rest)
  | .ident i _ :: rest =>
    if i.raw then none
    else if i.name == "true" then some (.bool true, rest)
    else if i.name == "false" then some (.bool false, rest)
    else none
  | .punct '-' _ :: .literal l :: rest =>
    if l.kind == .integer || l.kind == .float then some (.negative l, rest) else none
  | _ => none

/-- A literal value comes next. -/
def isLiteral (ts : List Token) : Bool := (literal ts).isSome

/-- The tokens behind the next one; a lifetime counts as one token. -/
def skip : List Token → List Token
  | .punct '\'' true :: .ident .. :: rest => rest
  | _ :: rest => rest
  | [] => []

/-- The tokens behind the next two. -/
def skip2 (ts : List Token) : List Token := skip (skip ts)

end Ahead

/-- The tokens of a literal value. -/
def LitValue.tokens : LitValue → List Token
  | .token l => [.literal l]
  | .negative l => [.lone '-', .literal l]
  | .bool b => [if b then .word "true" else .word "false"]

/-! ### Parsers -/

/-- What a parser has before it and has taken so far. -/
structure ParseState where
  rest : List Token
  /-- The tokens taken, latest first. -/
  taken : List Token
  /-- The first group of which something was left unread. -/
  leftover : Option Delimiter

/-- A parser: it may move on, and it may fail. What it leaves is the end of what was
ahead of it. -/
structure TokenParser (α : Type) where
  run : ParseState → Except GrammarError (α × ParseState)
  suffix : ∀ {s s' : ParseState} {a : α}, run s = .ok (a, s') → s'.rest <:+ s.rest

instance {α : Type} : CoeFun (TokenParser α) fun _ =>
    ParseState → Except GrammarError (α × ParseState) := ⟨TokenParser.run⟩

namespace TokenParser

/-- Reads nothing. -/
def still {α : Type} (look : ParseState → α) : TokenParser α where
  run s := .ok (look s, s)
  suffix h := by
    obtain ⟨-, rfl⟩ := Prod.mk.inj (Except.ok.inj h)
    exact List.suffix_rfl

/-- Fails. -/
def fault {α : Type} (error : ParseState → GrammarError) : TokenParser α where
  run s := .error (error s)
  suffix h := nomatch h

theorem run_bind_ok {α β : Type} {x : Except GrammarError (α × ParseState)}
    {f : α → TokenParser β} {s' : ParseState} {b : β}
    (h : (x >>= fun r => (f r.1).run r.2) = .ok (b, s')) :
    ∃ a t, x = .ok (a, t) ∧ (f a).run t = .ok (b, s') := by
  cases x with
  | error e => cases h
  | ok r => exact ⟨r.1, r.2, rfl, h⟩

instance : Monad TokenParser where
  pure a := still fun _ => a
  bind p f :=
    { run := fun s => p.run s >>= fun r => (f r.1).run r.2
      suffix := fun h => by
        obtain ⟨a, t, hp, hf⟩ := run_bind_ok h
        exact ((f a).suffix hf).trans (p.suffix hp) }

/-- The tokens ahead. -/
def ahead : TokenParser (List Token) := still ParseState.rest

/-- A test on the tokens ahead. -/
def next (test : List Token → Bool) : TokenParser Bool := still fun s => test s.rest

/-- Whether nothing is left. -/
def isEmpty : TokenParser Bool := next (·.isEmpty)

/-- The token taken last. -/
def lastTaken? : TokenParser (Option Token) := still fun s => s.taken.head?

/-- What a parser would read here, and what it would leave; nothing if it would fail. -/
def peek {α : Type} (p : TokenParser α) : TokenParser (Option (α × List Token)) := still fun s =>
  match p.run s with
  | .error _ => none
  | .ok (a, s') => some (a, s'.rest)

/-- Whether a parser would succeed here. -/
def would {α : Type} (p : TokenParser α) : TokenParser Bool := do pure (← peek p).isSome

/-- Fails here. -/
def fail {α : Type} (fault : SyntaxFault)
    (oneLine : fault.isOneLine = true := by exact (rfl : true = true)) : TokenParser α :=
  TokenParser.fault fun s => ⟨⟨s.rest.isEmpty, fault⟩, oneLine⟩

/-- Fails here for a rule beside the grammar. -/
def refuse {α : Type} (reason : String)
    (oneLine : Text.isOneLine reason = true := by exact Text.isOneLine_ofList (by decide)) :
    TokenParser α :=
  fault fun _ => ⟨⟨false, .refused reason⟩, oneLine⟩

/-- Fails because one of these alternatives belongs here. -/
def expected {α : Type} (alternatives : List String)
    (oneLine : alternatives.all Text.isOneLine = true := by exact (rfl : true = true)) :
    TokenParser α :=
  fail (.expected alternatives) oneLine

/-- Moves on by a number of tokens, for which the given ones are taken. -/
def advance (count : Nat) (taken : List Token) : TokenParser Unit where
  run s := .ok ((), { s with rest := s.rest.drop count, taken := taken.reverse ++ s.taken })
  suffix {s _ _} h := by
    obtain ⟨-, rfl⟩ := Prod.mk.inj (Except.ok.inj h)
    exact s.rest.drop_suffix count

/-- Runs a parser with a trail of its own, from which and from the result follows the trail
that is left. -/
def retrace {α β : Type} (p : TokenParser α) (result : α → List Token → β × List Token) :
    TokenParser β where
  run s :=
    match p.run { s with taken := [] } with
    | .error e => .error e
    | .ok (a, s') =>
      let (b, taken) := result a s'.taken
      .ok (b, { s' with taken := taken ++ s.taken })
  suffix h := by
    split at h
    · cases h
    · next hp =>
        have hrest := p.suffix hp
        obtain ⟨-, rfl⟩ := Prod.mk.inj (Except.ok.inj h)
        exact hrest

/-- What a parser read, beside its result. -/
def capture {α : Type} (p : TokenParser α) : TokenParser (α × List Token) :=
  p.retrace fun a taken => ((a, taken.reverse), taken)

/-- Runs a parser whose result knows its own tokens; those are the trail it
leaves. -/
def retold {α : Type} (tokens : α → List Token) (p : TokenParser α) : TokenParser α :=
  p.retrace fun a _ => (a, (tokens a).reverse)

/-- Repeats a step until it says that it is done, once for each token at most. -/
def iterate {α : Type} (step : α → TokenParser (α × Bool)) (a : α) : TokenParser α := do
  rounds step ((← ahead).length + 1) a
where
  /-- The steps, on fuel: a step that goes on has read a token. -/
  rounds (step : α → TokenParser (α × Bool)) : Nat → α → TokenParser α
    | 0, a => pure a
    | fuel + 1, a => do
      let (a, more) ← step a
      if more then rounds step fuel a else pure a

/-- Runs a parser until it returns nothing, and collects the results. -/
def many {α : Type} (p : TokenParser (Option α)) : TokenParser (List α) := do
  let reversed ← iterate (fun (done : List α) => do
    match ← p with
    | some a => pure (a :: done, true)
    | none => pure (done, false)) []
  pure reversed.reverse

/-! ### Tokens -/

theorem isOneLine_quoted {text : String} (h : Text.isOneLine text = true) :
    ["`" ++ text ++ "`"].all Text.isOneLine = true := by
  rw [List.all_cons, Text.isOneLine_between (by decide) text (by decide), h]
  rfl

/-- Reads an operator. -/
def op (text : String)
    (oneLine : Text.isOneLine text = true := by exact (rfl : true = true)) :
    TokenParser Unit := do
  let ts ← ahead
  if Ahead.op text ts then advance text.length (Token.operator text.toList)
  else expected ["`" ++ text ++ "`"] (isOneLine_quoted oneLine)

/-- Reads an operator if it is there. -/
def op? (text : String) : TokenParser Bool := do
  let ts ← ahead
  if Ahead.op text ts then
    advance text.length (Token.operator text.toList)
    pure true
  else pure false

/-- Reads a word. -/
def word (w : String)
    (oneLine : Text.isOneLine w = true := by exact (rfl : true = true)) :
    TokenParser Unit := do
  match ← ahead with
  | t :: _ =>
    if Ahead.word w [t] then advance 1 [t]
    else expected ["`" ++ w ++ "`"] (isOneLine_quoted oneLine)
  | [] => expected ["`" ++ w ++ "`"] (isOneLine_quoted oneLine)

/-- Reads a word if it is there. -/
def word? (w : String) : TokenParser Bool := do
  match ← ahead with
  | t :: _ => if Ahead.word w [t] then advance 1 [t]; pure true else pure false
  | [] => pure false

/-- Reads any word, with its place. -/
def anyWord : TokenParser (Ident × Position) := do
  match ← ahead with
  | .ident i place :: _ => advance 1 [.ident i place]; pure (i, place)
  | _ => expected ["identifier"]

/-- Reads an identifier, with its place. -/
def placedIdent : TokenParser (Ident × Position) := do
  match ← ahead with
  | .ident i _ :: _ => if i.isReserved then fail (.keyword i.name) i.isOneLine_name else anyWord
  | _ => expected ["identifier"]

/-- Reads an identifier. -/
def ident : TokenParser Ident := do pure (← placedIdent).1

/-- Reads an identifier or the word `try`. -/
def identOrTry : TokenParser Ident := do
  if ← next (Ahead.word "try") then pure (← anyWord).1 else ident

/-- Reads a lifetime. -/
def lifetime : TokenParser Ident := do
  match ← ahead with
  | .punct '\'' true :: .ident i _ :: _ => advance 2 (lifetimeTokens i); pure i
  | _ => expected ["lifetime"]

/-- Reads a lifetime if it is there. -/
def lifetime? : TokenParser (Option Ident) := do
  if ← next Ahead.lifetime then some <$> lifetime else pure none

/-- Reads a literal value. -/
def literal : TokenParser LitValue := do
  match Ahead.literal (← ahead) with
  | some (value, _) => advance value.tokens.length value.tokens; pure value
  | none => expected ["literal"]

/-- Reads one token, whatever it is. -/
def anyToken : TokenParser Unit := do
  match ← ahead with
  | t :: _ => advance 1 [t]
  | [] => expected []

/-! ### Groups -/

/-- How messages name a pair of brackets. -/
def groupName : Delimiter → String
  | .paren => "parentheses"
  | .bracket => "square brackets"
  | .brace => "curly braces"

theorem isOneLine_groupName (d : Delimiter) : [groupName d].all Text.isOneLine = true := by
  cases d <;> decide

/-- Reads a group and its contents. Contents left unread are noted. -/
def group {α : Type} (d : Delimiter) (p : TokenParser α) : TokenParser α where
  run s :=
    match s.rest with
    | .group e inner :: rest =>
      if d = e then
        match p.run ⟨inner, [], s.leftover⟩ with
        | .error fault => .error fault
        | .ok (a, s') =>
          let leftover := s'.leftover <|> (if s'.rest.isEmpty then none else some d)
          .ok (a, ⟨rest, .group d s'.taken.reverse :: s.taken, leftover⟩)
      else .error ⟨⟨false, .expected [groupName d]⟩, isOneLine_groupName d⟩
    | ts => .error ⟨⟨ts.isEmpty, .expected [groupName d]⟩, isOneLine_groupName d⟩
  suffix h := by
    split at h
    · next hrest =>
        split at h
        · split at h
          · cases h
          · obtain ⟨-, rfl⟩ := Prod.mk.inj (Except.ok.inj h)
            rw [hrest]
            exact List.suffix_cons _ _
        · cases h
    · cases h

/-- Reads a group of any kind without looking into it. -/
def rawGroup : TokenParser (Delimiter × List Token) := do
  match ← ahead with
  | .group d inner :: _ => advance 1 [.group d inner]; pure (d, inner)
  | _ => expected ["delimiter"]

/-- Reads elements separated by commas up to the end, where one more comma may
stand. Tells whether it stood there. -/
def terminated {α : Type} (p : TokenParser α) : TokenParser (List α × Bool) := do
  let (done, trailing) ← iterate (fun (done, trailing) => do
    if ← isEmpty then pure ((done, trailing), false)
    else
      let a ← p
      if ← isEmpty then pure ((a :: done, false), false)
      else
        op ","
        pure ((a :: done, true), true)) (([] : List α), false)
  pure (done.reverse, trailing)

/-- Reads elements separated by an operator up to a closing mark, before which one
more of them may stand. -/
def separated {α : Type} (sep : String) (closed : List Token → Bool) (p : TokenParser α)
    (oneLine : Text.isOneLine sep = true := by exact (rfl : true = true)) :
    TokenParser (List α × Bool) := do
  let (done, trailing) ← iterate (fun (done, trailing) => do
    if ← next closed then pure ((done, trailing), false)
    else
      let a ← p
      if ← next closed then pure ((a :: done, false), false)
      else
        op sep oneLine
        pure ((a :: done, true), true)) (([] : List α), false)
  pure (done.reverse, trailing)

/-- Reads elements for as long as a plus sign follows, up to a closing mark. -/
def plusWhile {α : Type} (closed : List Token → Bool) (p : TokenParser α) :
    TokenParser (List α × Bool) := do
  let (done, trailing) ← iterate (fun (done, trailing) => do
    if ← next closed then pure ((done, trailing), false)
    else
      let a ← p
      if ← op? "+" then pure ((a :: done, true), true)
      else pure ((a :: done, false), false)) (([] : List α), false)
  pure (done.reverse, trailing)

/-- Runs a parser over all of the tokens. What it leaves is an error, and what it
left inside a group comes first. -/
def parseAll {α : Type} (p : TokenParser α) (tokens : List Token) : Except SyntaxError α := do
  let (a, s) ← (p ⟨tokens, [], none⟩).mapError GrammarError.error
  match s.leftover with
  | some d => throw ⟨false, .unexpected (some d)⟩
  | none =>
    if s.rest.isEmpty then pure a else throw ⟨false, .unexpected none⟩

end TokenParser

end TraitRoutes
