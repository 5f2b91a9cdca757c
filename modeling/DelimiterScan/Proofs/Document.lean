import DelimiterScan.Proofs.Regions

/-!
# Documents

The language of the default tables, for separators of one character: plain characters,
separators, quotations, comments, and groups in brackets around more of the same. `Document`
holds the well-formed documents only; `render` writes one down, and `interpretation` says what it
means: the tokens between the separators, with the comments beside them. The main statement,
`scan_render`, is that scanning what was written gives what was meant.
-/

namespace DelimiterScan

inductive Bracket where
  | round
  | square
  | curly
  deriving DecidableEq, Repr

namespace Bracket

def opener : Bracket → Char
  | round => '('
  | square => '['
  | curly => '\x7b'

def closer : Bracket → Char
  | round => ')'
  | square => ']'
  | curly => '\x7d'

def block (b : Bracket) : Block := ⟨b.opener.toString, b.closer.toString⟩

theorem block_injective {b b' : Bracket} (h : b.block = b'.block) : b = b' := by
  revert h
  cases b <;> cases b' <;> decide

theorem forall_iff {p : Bracket → Prop} : (∀ b, p b) ↔ p round ∧ p square ∧ p curly := by
  refine ⟨fun h => ⟨h _, h _, h _⟩, fun ⟨hround, hsquare, hcurly⟩ b => ?_⟩
  cases b
  exacts [hround, hsquare, hcurly]

instance {p : Bracket → Prop} [DecidablePred p] : Decidable (∀ b, p b) :=
  decidable_of_iff' _ forall_iff

end Bracket

def quoteMarks : List Char := ['"', '\'', '\x60']

/-- The characters that are no separators. -/
def reserved : List Char :=
  ['(', ')', '[', ']', '\x7b', '\x7d', '"', '\'', '\x60', '/']

/-- A character that means nothing where it stands: at the top level, or inside a bracket. -/
structure PlainChar (separators : List Char) (inside : Option Bracket) (c : Char) : Prop where
  not_opener : ∀ b : Bracket, c ≠ b.opener
  not_mark : c ∉ quoteMarks
  not_slash : c ≠ '/'
  not_separator : inside = none → c ∉ separators
  not_closer : ∀ b ∈ inside, c ≠ b.closer

theorem plainChar_iff {separators : List Char} {inside : Option Bracket} {c : Char} :
    PlainChar separators inside c ↔ (∀ b : Bracket, c ≠ b.opener) ∧ c ∉ quoteMarks ∧ c ≠ '/' ∧
      (inside = none → c ∉ separators) ∧ ∀ b ∈ inside, c ≠ b.closer :=
  ⟨fun ⟨hopener, hmark, hslash, hseparator, hcloser⟩ =>
      ⟨hopener, hmark, hslash, hseparator, hcloser⟩,
    fun ⟨hopener, hmark, hslash, hseparator, hcloser⟩ =>
      ⟨hopener, hmark, hslash, hseparator, hcloser⟩⟩

instance {separators : List Char} {inside : Option Bracket} {c : Char} :
    Decidable (PlainChar separators inside c) :=
  decidable_of_iff' _ plainChar_iff

/-- The items of a document one after the other, at the top level or inside a bracket. -/
inductive Document (separators : List Char) : Option Bracket → Type
  | nil {inside : Option Bracket} : Document separators inside
  | plain {inside : Option Bracket} (c : Char) (hc : PlainChar separators inside c)
      (rest : Document separators inside) : Document separators inside
  | separator (d : Char) (hd : d ∈ separators) (rest : Document separators none) :
      Document separators none
  | quotation {inside : Option Bracket} (mark : Char) (hmark : mark ∈ quoteMarks)
      (body : List Char) (hbody : mark ∉ body) (rest : Document separators inside) :
      Document separators inside
  | comment {inside : Option Bracket} (k : Block) (hk : k ∈ Block.defaultComments)
      (body : List Char) (hbody : ¬ k.finish.toList <:+: body)
      (rest : Document separators inside) : Document separators inside
  | group {inside : Option Bracket} (b : Bracket) (inner : Document separators (some b))
      (rest : Document separators inside) : Document separators inside

namespace Document

variable {separators : List Char} {inside : Option Bracket}

def render {inside : Option Bracket} : Document separators inside → List Char
  | nil => []
  | plain c _ rest => c :: rest.render
  | separator d _ rest => d :: rest.render
  | quotation mark _ body _ rest => mark :: (body ++ mark :: rest.render)
  | comment k _ body _ rest => k.start.toList ++ (body ++ (k.finish.toList ++ rest.render))
  | group b inner rest => b.opener :: (inner.render ++ b.closer :: rest.render)

/-- The parts between the separators. -/
def segments {inside : Option Bracket} :
    Document separators inside → List (Document separators inside)
  | nil => [nil]
  | plain c hc rest => rest.segments.modifyHead (plain c hc)
  | separator _ _ rest => nil :: rest.segments
  | quotation mark hmark body hbody rest =>
    rest.segments.modifyHead (quotation mark hmark body hbody)
  | comment k hk body hbody rest => rest.segments.modifyHead (comment k hk body hbody)
  | group b inner rest => rest.segments.modifyHead (group b inner)

/-- The text without the comments at this level; those inside groups stay. -/
def visible {inside : Option Bracket} : Document separators inside → List Char
  | nil => []
  | plain c _ rest => c :: rest.visible
  | separator d _ rest => d :: rest.visible
  | quotation mark _ body _ rest => mark :: (body ++ mark :: rest.visible)
  | comment _ _ _ _ rest => rest.visible
  | group b inner rest => b.opener :: (inner.render ++ b.closer :: rest.visible)

def comments {inside : Option Bracket} : Document separators inside → List String
  | nil => []
  | plain _ _ rest => rest.comments
  | separator _ _ rest => rest.comments
  | quotation _ _ _ _ rest => rest.comments
  | comment _ _ body _ rest => String.ofList body :: rest.comments
  | group _ _ rest => rest.comments

def depth {inside : Option Bracket} : Document separators inside → Nat
  | nil => 0
  | plain _ _ rest => rest.depth
  | separator _ _ rest => rest.depth
  | quotation _ _ _ _ rest => rest.depth
  | comment _ _ _ _ rest => rest.depth
  | group _ inner rest => max (inner.depth + 1) rest.depth

def separatorsAt {inside : Option Bracket} (offset : Nat) :
    Document separators inside → List (Nat × Char)
  | nil => []
  | plain c _ rest => rest.separatorsAt (offset + c.utf8Size)
  | separator d _ rest => (offset, d) :: rest.separatorsAt (offset + d.utf8Size)
  | quotation mark _ body _ rest =>
    rest.separatorsAt (offset + Text.byteSize (mark :: (body ++ [mark])))
  | comment k _ body _ rest =>
    rest.separatorsAt (offset + Text.byteSize (k.start.toList ++ (body ++ k.finish.toList)))
  | group b inner rest =>
    rest.separatorsAt (offset + Text.byteSize (b.opener :: (inner.render ++ [b.closer])))

/-- The token that a part without separators becomes. -/
def token (d : Document separators inside) : Token := ⟨String.ofList d.visible, d.comments⟩

def delimiters (separators : List Char) : List Delimiter :=
  separators.map fun d => .literal d.toString

/-- What a scan of the document gives. -/
def interpretation (d : Document separators none) : ScanResult where
  delims := delimiters separators
  options := {}
  nesting := []
  maxDepth := d.depth
  comments := d.comments
  tokens := (d.segments.map token).toArray
  cuts := ((d.separatorsAt 0).map fun (_, c) => some c.toString).toArray
  cutsAt := ((d.separatorsAt 0).map fun (offset, c) => (offset, c.toString)).toArray
  stop := none

end Document

end DelimiterScan
