import Migration.Pattern.Basic

namespace Migration.Pattern

/-! Searching a text for a pattern.

Positions at which a part of the text may begin are handed to a pattern, which answers with those at
which it ends.  Every piece of the pattern remembers the positions it was handed and those it has
answered, and works on new ones only.  So no pattern takes long because of the way it is written,
however its repetitions are nested.  A set of positions is an ascending list.
-/

/-- What `merge` does with the first number of one list, given what it does with the rest. -/
def mergeFirst (first : Nat) (mergeRest : List Nat → List Nat) : List Nat → List Nat
  | [] => first :: mergeRest []
  | other :: others =>
      if other < first then other :: mergeFirst first mergeRest others
      else if other = first then first :: mergeRest others
      else first :: mergeRest (other :: others)

/-- The numbers of two ascending lists, each number once. -/
def merge : List Nat → List Nat → List Nat
  | [], others => others
  | first :: rest, others => mergeFirst first (merge rest) others

theorem mem_mergeFirst {first position : Nat} {mergeRest : List Nat → List Nat} {rest : List Nat}
    (member : ∀ others, position ∈ mergeRest others ↔ position ∈ rest ∨ position ∈ others)
    (others : List Nat) :
    position ∈ mergeFirst first mergeRest others ↔
      position = first ∨ position ∈ rest ∨ position ∈ others := by
  induction others with
  | nil => simp [mergeFirst, member]
  | cons other others ih =>
      simp only [mergeFirst]
      split
      · simp only [List.mem_cons, ih]
        grind
      · split
        · simp only [List.mem_cons, member]
          grind
        · simp only [List.mem_cons, member]

@[simp] theorem mem_merge (position : Nat) (left right : List Nat) :
    position ∈ merge left right ↔ position ∈ left ∨ position ∈ right := by
  induction left generalizing right with
  | nil => simp [merge]
  | cons first rest ih =>
      rw [merge, mem_mergeFirst (fun others => ih others)]
      simp [or_assoc]

/-- The numbers of an ascending list that are not in another one. -/
def without : List Nat → List Nat → List Nat
  | [], _ => []
  | first :: rest, known =>
      match known.dropWhile (· < first) with
      | [] => first :: rest
      | next :: others =>
          if next = first then without rest others else first :: without rest (next :: others)

/-- What a piece of a pattern remembers of a search: positions at which it began, those at which it
ended, and the memories of its own pieces as far as they have been reached. -/
structure Memory where
  starts : List Nat := []
  ends : List Nat := []
  pieces : List Memory := []

/-- A way to hand positions to a piece.  The answer holds new ends only. -/
abbrev Feeding := Memory → List Nat → Memory × List Nat

/-- Hands on the positions that are new, and remembers them and the answer. -/
def Memory.feed (feedPieces : List Memory → List Nat → List Memory × List Nat) : Feeding :=
  fun memory starts =>
    match without starts memory.starts with
    | [] => (memory, [])
    | new =>
        let (pieces, ends) := feedPieces memory.pieces new
        let ends := without ends memory.ends
        ({ starts := merge memory.starts new, ends := merge memory.ends ends, pieces }, ends)

/-- Hands positions to `count` copies of a body, one behind the other.  The answer is `reached`, and
where the copies end from the one with number `least` on; `done` are copies in front, the last one
first. -/
def feedCopies (feedBody : Feeding) :
    (count least : Nat) → (done copies : List Memory) → (reached starts : List Nat) →
      List Memory × List Nat
  | count + 1, least, done, copies, reached, start :: starts =>
      let (copy, ends) := feedBody (copies.headD {}) (start :: starts)
      feedCopies feedBody count (least - 1) (copy :: done) copies.tail
        (if least ≤ 1 then merge reached ends else reached) ends
  | _, _, done, copies, reached, _ => (done.reverse ++ copies, reached)

/-- Hands positions to a body that can begin again where it has ended, in a number of rounds. -/
def feedLoop (feedBody : Feeding) :
    (rounds : Nat) → Memory → (reached starts : List Nat) → Memory × List Nat
  | rounds + 1, memory, reached, start :: starts =>
      let (memory, ends) := feedBody memory (start :: starts)
      feedLoop feedBody rounds memory (merge reached ends) ends
  | _, memory, reached, _ => (memory, reached)

/-- Hands positions to a repeated body.  All but the last of the copies that have to be there come
first, and the last one is a loop if there is no bound.  A text of `size` characters is used up, or
nothing changes any more, after one repetition more than it has characters. -/
def feedRepeated (feedBody : Feeding) (size least : Nat) (most : Option Nat)
    (pieces : List Memory) (starts : List Nat) : List Memory × List Nat :=
  let needed := min least (size + 1)
  match most with
  | some most =>
      feedCopies feedBody (needed + min (most - least) (size + 1)) needed [] pieces
        (if least = 0 then starts else []) starts
  | none =>
      let (copies, entered) :=
        if needed ≤ 1 then (pieces.tail, starts)
        else feedCopies feedBody (needed - 1) (needed - 1) [] pieces.tail [] starts
      let (loop, ends) := feedLoop feedBody (size + 2) (pieces.headD {}) [] entered
      (loop :: copies, if least = 0 then merge starts ends else ends)

/-- Whether a literal stands in the text at a position. -/
def standsAt (text : Array Char) : (wanted : Text) → (index : Nat) → Bool
  | [], _ => true
  | c :: rest, index => text[index]? = some c && standsAt text rest (index + 1)

mutual

/-- Hands positions to a pattern. -/
def feed (text : Array Char) : Pattern → Feeding
  | .empty => Memory.feed fun pieces starts => (pieces, starts)
  | .literal wanted => Memory.feed fun pieces starts =>
      (pieces, (starts.filter (standsAt text wanted)).map (· + wanted.length))
  | .one set => Memory.feed fun pieces starts =>
      (pieces, (starts.filter fun index => text[index]?.any set.contains).map (· + 1))
  | .position place => Memory.feed fun pieces starts =>
      (pieces, starts.filter fun index =>
        place.holds (if index = 0 then none else text[index - 1]?) text[index]?)
  | .sequence parts => Memory.feed (feedAll text [] parts)
  | .either alternatives => Memory.feed (feedAny text [] [] alternatives)
  | .repeated body least most =>
      Memory.feed (feedRepeated (feed text body) text.size least most)
  | .group _ body => feed text body

/-- Hands positions to the first of several parts, what it answers to the next, and so on. -/
def feedAll (text : Array Char) (done : List Memory) :
    List Pattern → List Memory → List Nat → List Memory × List Nat
  | part :: rest, memories, start :: starts =>
      let (memory, ends) := feed text part (memories.headD {}) (start :: starts)
      feedAll text (memory :: done) rest memories.tail ends
  | [], memories, starts => (done.reverse ++ memories, starts)
  | _ :: _, memories, [] => (done.reverse ++ memories, [])

/-- Hands the same positions to several alternatives; `reached` is what earlier ones answered. -/
def feedAny (text : Array Char) (done : List Memory) (reached : List Nat) :
    List Pattern → List Memory → List Nat → List Memory × List Nat
  | [], memories, _ => (done.reverse ++ memories, reached)
  | alternative :: rest, memories, starts =>
      let (memory, ends) := feed text alternative (memories.headD {}) starts
      feedAny text (memory :: done) (merge reached ends) rest memories.tail starts

end

/-- Whether some part of the text fits the pattern. -/
def occursIn (pattern : Pattern) (text : Text) : Bool :=
  let characters := text.toArray
  !(feed characters pattern {} (List.range (characters.size + 1))).2.isEmpty

end Migration.Pattern
