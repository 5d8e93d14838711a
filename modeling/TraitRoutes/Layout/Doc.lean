/-!
# Layout

A document is text with breaks, in nested groups. A group that fits on the line
together with what follows it up to the next break is laid out flat. In one that
does not, every break ends the line if the group is consistent; if it is not, a
break ends the line only if what follows it would not fit. Widths are measured in
bytes of UTF-8. A line holds 89 of them, but however deep the indentation, there
is room for 60.
-/

namespace TraitRoutes.Layout

/-- A place where a line may end. -/
structure Break where
  /-- The blanks in place of the break, if it does not end the line. -/
  blank : Nat := 0
  /-- Added to the indentation of the next line. -/
  offset : Int := 0
  /-- Written before the line ends. -/
  before : String := ""
  /-- Written at the start of the next line. -/
  after : String := ""
  /-- Written if the line does not end. -/
  unbroken : String := ""
  /-- Left out at the end of a group. -/
  ifNonempty : Bool := false
  /-- Never ends the line. -/
  never : Bool := false
  /-- Leaves a blank behind a point, if the line does not end. -/
  apart : Bool := false

/-- A document. -/
inductive Doc where
  | text (s : String)
  | brk (b : Break)
  /-- Nothing, but no line is wide enough for it: no group around it fits. -/
  | forced
  /-- A blank behind a point, and nothing behind anything else. -/
  | apart
  /-- What the library does not know how to write. -/
  | unknown
  | group (offset : Int) (consistent : Bool) (parts : List Doc)

/-- The line width. -/
def margin : Nat := 89

/-- The width that is left at any indentation. -/
def minSpace : Nat := 60

/-- The step of indentation. -/
def step : Int := 4

/-- The blanks of a break that always ends the line. -/
def endless : Nat := 0xffff

/-! ### Parts of documents -/

namespace Doc

/-- A consistent group. -/
def cbox (offset : Int) (parts : List Doc) : Doc := .group offset true parts

/-- An inconsistent group. -/
def ibox (offset : Int) (parts : List Doc) : Doc := .group offset false parts

/-- A break without width. -/
def zero : Doc := .brk {}

/-- A break without width before a closing mark. -/
def zeroBack : Doc := .brk { offset := -step }

/-- A blank or the end of a line. -/
def space : Doc := .brk { blank := 1 }

/-- The end of a line. -/
def hard : Doc := .brk { blank := endless }

/-- The end of a line before a closing mark. -/
def hardBack : Doc := .brk { blank := endless, offset := -step }

/-- The end of a line, unless nothing follows it in its group. -/
def hardIfNonempty : Doc := .brk { blank := endless, ifNonempty := true }

/-- A blank or the end of a line, unless nothing follows it in its group. -/
def spaceIfNonempty : Doc := .brk { blank := 1, ifNonempty := true }

/-- A place that no line ends at, where the measure of what goes before does. -/
def never : Doc := .brk { never := true }

/-- A comma that only stands at the end of a line. -/
def lastComma (offset : Int) : Doc := .brk { before := ",", offset }

/-- Moves the line behind the last break back by a step of indentation, for a closing
mark that stands there. -/
def closing (parts : List Doc) : List Doc :=
  match parts.getLast? with
  | some (.brk b) => parts.dropLast ++ [.brk { b with offset := b.offset - step }]
  | _ => parts

/-- Documents with something between them. -/
def joined (between : List Doc) : List (List Doc) → List Doc
  | [] => []
  | [last] => last
  | first :: rest => first ++ between ++ joined between rest

/-- Elements separated by commas, the last one followed by a comma if the lines
end. The break behind it takes the indentation back. -/
def commaList : List (List Doc) → List Doc
  | [] => []
  | [last] => last ++ [lastComma (-step)]
  | first :: rest => first ++ .text "," :: space :: commaList rest

/-- Elements separated by commas, in front of a closing mark with blanks inside. With
`closed`, nothing follows the last element. -/
def spacedList (closed : Bool) : List (List Doc) → List Doc
  | [] => []
  | [last] => last ++ (if closed then [.brk { blank := 1, before := "," }] else [.text ",", space])
  | first :: rest => first ++ .text "," :: space :: spacedList closed rest

/-- Elements between brackets, one to a line if they do not fit. -/
def bracketed (opening closing : String) (elements : List (List Doc)) : List Doc :=
  if elements.isEmpty then [.text (opening ++ closing)]
  else [.text opening, cbox step (zero :: commaList elements), .text closing]

end Doc

/-! ### Flat documents -/

/-- A piece of a document whose groups are opened and closed in line. -/
inductive Piece where
  | text (s : String)
  | brk (b : Break)
  | forced
  | apart
  | unknown
  | opening (offset : Int) (consistent : Bool)
  | closing

/-- Leaves a break out at the end of a group if it is to be left out there. -/
def dropLastBreak (pieces : List Piece) : List Piece :=
  match pieces.getLast? with
  | some (.brk b) => if b.ifNonempty then pieces.dropLast else pieces
  | _ => pieces

/-- A group in line. One that holds nothing but a break is left out. -/
def enclose (offset : Int) (consistent : Bool) : List Piece → List Piece
  | [.brk _] => []
  | pieces => .opening offset consistent :: (dropLastBreak pieces ++ [.closing])

mutual

/-- The pieces of a document. -/
def Doc.pieces : Doc → List Piece
  | .text s => [.text s]
  | .brk b => [.brk b]
  | .forced => [.forced]
  | .apart => [.apart]
  | .unknown => [.unknown]
  | .group offset consistent parts => enclose offset consistent (Doc.piecesAll parts)

/-- The pieces of documents one after another. -/
def Doc.piecesAll : List Doc → List Piece
  | [] => []
  | d :: rest => d.pieces ++ Doc.piecesAll rest

end

/-- Settles what stands apart from a point; `point` holds when the text so far ends
with one. -/
def settle (point : Bool) : List Piece → List Piece
  | [] => []
  | .text s :: rest => .text s :: settle (s.toList.getLast? == some '.') rest
  | .apart :: rest => if point then .text " " :: settle false rest else settle false rest
  | .brk b :: rest =>
    .brk (if b.apart && point then { b with unbroken := " " } else b) :: settle point rest
  | piece :: rest => piece :: settle point rest

/-- The width up to the next break that is not inside a group opened on the way;
`depth` counts those groups. Measuring stops beyond `limit`. -/
def widthAhead (limit : Int) : Nat → List Piece → Int
  | _, [] => 0
  | depth, piece :: rest =>
    if limit < 0 then 0
    else
      match piece with
      | .text s => s.utf8ByteSize + widthAhead (limit - s.utf8ByteSize) depth rest
      | .forced => endless
      | .apart | .unknown => widthAhead limit depth rest
      | .opening .. => widthAhead limit (depth + 1) rest
      | .closing => widthAhead limit (depth - 1) rest
      | .brk b =>
        if depth = 0 then 0
        else b.blank + widthAhead (limit - b.blank) depth rest

/-- The width of pieces on one line. -/
def flatWidth : List Piece → Nat
  | [] => 0
  | .text s :: rest => s.utf8ByteSize + flatWidth rest
  | .brk b :: rest => b.blank + flatWidth rest
  | .forced :: rest => endless + flatWidth rest
  | _ :: rest => flatWidth rest

/-- A consistent group that does not fit if it is wider than `limit`, whatever room
there is. -/
def Doc.capped (limit : Nat) (parts : List Doc) : Doc :=
  let width := flatWidth (settle false (Doc.piecesAll parts))
  .cbox step (if width ≤ limit then parts else parts ++ [.forced])

/-! ### Printing -/

/-- A group being printed. -/
inductive Frame where
  /-- Laid out flat. -/
  | fits
  /-- Over several lines, with the indentation to go back to. -/
  | broken (outer : Int) (consistent : Bool)

/-- What has been printed. -/
structure Printed where
  /-- The texts, latest first. -/
  out : List String := []
  /-- The width left on the line. -/
  space : Int := margin
  indent : Int := 0
  /-- Blanks due before the next text. -/
  pending : Nat := 0
  stack : List Frame := []

namespace Printed

/-- Blanks. -/
def blanks (n : Nat) : String := String.ofList (List.replicate n ' ')

/-- Writes a text, after the blanks that are due. -/
def put (p : Printed) (s : String) : Printed :=
  if s.isEmpty then p
  else
    let before := if p.pending = 0 then p.out else blanks p.pending :: p.out
    { p with out := s :: before, pending := 0 }

/-- Writes a text and takes its width off the line. -/
def write (p : Printed) (s : String) : Printed :=
  { p.put s with space := p.space - s.utf8ByteSize }

/-- Whether a break ends the line, given the width that follows it. -/
def breaks (p : Printed) (b : Break) (width : Int) : Bool :=
  !b.never &&
    match p.stack with
    | .fits :: _ => false
    | .broken _ true :: _ => true
    | .broken _ false :: _ => p.space < width
    | [] => p.space < width

/-- Ends the line. No line starts to the left of the first. -/
def newline (p : Printed) (b : Break) : Printed :=
  let p := p.put b.before
  let indent := (p.indent + b.offset).toNat
  let p := { p with
    out := "\n" :: p.out, pending := indent, space := max (margin - indent) minSpace }
  p.write b.after

/-- Prints one piece, before the given rest. -/
def step (p : Printed) (piece : Piece) (rest : List Piece) : Printed :=
  match piece with
  | .text s => p.write s
  | .forced | .apart | .unknown => p
  | .brk b =>
    if p.breaks b (b.blank + widthAhead (p.space + 1) 0 rest) then p.newline b
    else { p with pending := p.pending + b.blank, space := p.space - b.blank }.write b.unbroken
  | .opening offset consistent =>
    if p.space < widthAhead (p.space + 1) 1 rest then
      { p with indent := p.indent + offset, stack := .broken p.indent consistent :: p.stack }
    else { p with stack := .fits :: p.stack }
  | .closing =>
    match p.stack with
    | .broken outer _ :: more => { p with indent := outer, stack := more }
    | .fits :: more => { p with stack := more }
    | [] => p

/-- Prints pieces. -/
def run (p : Printed) : List Piece → Printed
  | [] => p
  | piece :: rest => run (p.step piece rest) rest

/-- The text printed. -/
def text (p : Printed) : String := String.join p.out.reverse

end Printed

/-- A document as text. -/
def Doc.render (parts : List Doc) : String :=
  (Printed.run {} (settle false (Doc.piecesAll parts))).text

/-- Whether a piece is text that can be written, or none. -/
def Piece.isKnown : Piece → Bool
  | .unknown => false
  | _ => true

/-- Whether there is nothing in a document that cannot be written. -/
def Doc.isWritable (parts : List Doc) : Bool := (Doc.piecesAll parts).all Piece.isKnown

end TraitRoutes.Layout
