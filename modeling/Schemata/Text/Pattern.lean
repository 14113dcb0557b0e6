/-!
Regular expressions over characters. A text is read one character at a time: `after c p` is what
the rest of a text must match once `p` has read `c`. Concatenations and alternatives are simplified
while they are built, so that a pattern stays small however long the text is.
-/
namespace Schemata.Text

inductive Pattern where
  /-- No text. -/
  | never
  /-- The empty text only. -/
  | empty
  /-- One character of a class. -/
  | one (p : Char → Bool)
  | seq (p q : Pattern)
  | either (p q : Pattern)
  /-- Any number of repetitions. -/
  | many (p : Pattern)

namespace Pattern

/-- At least one repetition. -/
def some (p : Pattern) : Pattern := .seq p (.many p)

def optional (p : Pattern) : Pattern := .either p .empty

/-- Whether the pattern matches the empty text. -/
def nullable : Pattern → Bool
  | .never => false
  | .empty => true
  | .one _ => false
  | .seq p q => p.nullable && q.nullable
  | .either p q => p.nullable || q.nullable
  | .many _ => true

/-- Concatenation without `never` and `empty` in front. -/
def join : Pattern → Pattern → Pattern
  | .never, _ => .never
  | .empty, q => q
  | p, q => .seq p q

/-- Alternative without `never`. -/
def union : Pattern → Pattern → Pattern
  | .never, q => q
  | p, .never => p
  | p, q => .either p q

/-- What remains to be matched after the character `c`. -/
def after (c : Char) : Pattern → Pattern
  | .never => .never
  | .empty => .never
  | .one p => if p c then .empty else .never
  | .seq p q =>
    if p.nullable then union (join (after c p) q) (after c q) else join (after c p) q
  | .either p q => union (after c p) (after c q)
  | .many p => join (after c p) (.many p)

def accepts (p : Pattern) (s : List Char) : Bool :=
  (s.foldl (fun q c => q.after c) p).nullable

@[simp] theorem accepts_nil (p : Pattern) : p.accepts [] = p.nullable := rfl

@[simp] theorem accepts_cons (p : Pattern) (c : Char) (s : List Char) :
    p.accepts (c :: s) = (p.after c).accepts s := rfl

end Pattern

end Schemata.Text
