import Grounding.Proofs.Json.Scanning
import Mathlib.Data.List.Induction

/-!
# The grammar that is read

A text is read in one pass with a list of open containers.  Without that list, what is read is a grammar: a
value is a scalar, a string, or a container, and a container goes on after each of its values until it is
closed.
-/

namespace Grounding.Json

/-- What a stretch of a text can be read as. -/
inductive Phrase where
  | value (v : Json)
  /-- What follows an item of an array, up to its closing bracket. -/
  | moreItems (items : List Json)
  /-- An object, with its members as they are written. -/
  | object (written : List (String × Json))
  /-- What follows a member of an object, up to its closing brace. -/
  | moreMembers (written : List (String × Json))

/-- Behind so many open containers the text from one cursor to another reads as a phrase. -/
inductive Spans (limits : Limits) : Nat → Cursor → Phrase → Cursor → Prop where
  | scalar {depth : Nat} {c c' : Cursor} {v : Json}
      (hscan : scanScalar limits.digits c = .ok (v, c')) : Spans limits depth c (.value v) c'
  | string {depth : Nat} {c c' : Cursor} {rest : List Char} {s : String}
      (hquote : c.rest = Text.doubleQuote :: rest)
      (hscan : scanString c.offset rest (c.offset + 1) .plain none [] = .ok (s, c')) :
      Spans limits depth c (.value (.str s)) c'
  | emptyArray {depth : Nat} {c : Cursor} {rest after : List Char}
      (hopen : c.rest = '[' :: rest) (hdepth : depth < limits.nesting)
      (hclose : (Cursor.skip ⟨rest, c.offset + 1⟩).rest = ']' :: after) :
      Spans limits depth c (.value (.arr []))
        ⟨after, (Cursor.skip ⟨rest, c.offset + 1⟩).offset + 1⟩
  | array {depth : Nat} {c c₁ c₂ : Cursor} {rest : List Char} {v : Json} {items : List Json}
      (hopen : c.rest = '[' :: rest) (hdepth : depth < limits.nesting)
      (hfirst : Spans limits (depth + 1) (Cursor.skip ⟨rest, c.offset + 1⟩) (.value v) c₁)
      (hmore : Spans limits (depth + 1) c₁ (.moreItems items) c₂) :
      Spans limits depth c (.value (.arr (v :: items))) c₂
  | closeArray {depth : Nat} {c : Cursor} {after : List Char}
      (hclose : c.skip.rest = ']' :: after) :
      Spans limits depth c (.moreItems []) ⟨after, c.skip.offset + 1⟩
  | nextItem {depth : Nat} {c c₁ c₂ : Cursor} {rest : List Char} {v : Json} {items : List Json}
      (hcomma : c.skip.rest = ',' :: rest)
      (hnext : Spans limits depth (Cursor.skip ⟨rest, c.skip.offset + 1⟩) (.value v) c₁)
      (hmore : Spans limits depth c₁ (.moreItems items) c₂) :
      Spans limits depth c (.moreItems (v :: items)) c₂
  | ofObject {depth : Nat} {c c' : Cursor} {written : List (String × Json)}
      (hobject : Spans limits depth c (.object written) c') :
      Spans limits depth c (.value (.obj (settle written))) c'
  | emptyObject {depth : Nat} {c : Cursor} {rest after : List Char}
      (hopen : c.rest = '{' :: rest) (hdepth : depth < limits.nesting)
      (hclose : (Cursor.skip ⟨rest, c.offset + 1⟩).rest = '}' :: after) :
      Spans limits depth c (.object []) ⟨after, (Cursor.skip ⟨rest, c.offset + 1⟩).offset + 1⟩
  | object {depth : Nat} {c c₀ c₁ c₂ : Cursor} {rest : List Char} {name : String} {v : Json}
      {written : List (String × Json)}
      (hopen : c.rest = '{' :: rest) (hdepth : depth < limits.nesting)
      (hname : scanName (Cursor.skip ⟨rest, c.offset + 1⟩) = .ok (name, c₀))
      (hfirst : Spans limits (depth + 1) c₀ (.value v) c₁)
      (hmore : Spans limits (depth + 1) c₁ (.moreMembers written) c₂) :
      Spans limits depth c (.object ((name, v) :: written)) c₂
  | closeObject {depth : Nat} {c : Cursor} {after : List Char}
      (hclose : c.skip.rest = '}' :: after) :
      Spans limits depth c (.moreMembers []) ⟨after, c.skip.offset + 1⟩
  | nextMember {depth : Nat} {c c₀ c₁ c₂ : Cursor} {rest : List Char} {name : String} {v : Json}
      {written : List (String × Json)} (hcomma : c.skip.rest = ',' :: rest)
      (hname : scanName (Cursor.skip ⟨rest, c.skip.offset + 1⟩) = .ok (name, c₀))
      (hnext : Spans limits depth c₀ (.value v) c₁)
      (hmore : Spans limits depth c₁ (.moreMembers written) c₂) :
      Spans limits depth c (.moreMembers ((name, v) :: written)) c₂

/-- What the open containers, innermost first, make of a value that has just been read, from there to the
end of the outermost value. -/
def Closes (limits : Limits) : Nat → List Frame → Json → Cursor → Json × Cursor → Prop
  | _, [], v, c, result => result = (v, c)
  | depth, .array done :: frames, v, c, result =>
    ∃ items c', Spans limits depth c (.moreItems items) c' ∧
      Closes limits (depth - 1) frames (.arr ((v :: done).reverse ++ items)) c' result
  | depth, .object done name :: frames, v, c, result =>
    ∃ written c', Spans limits depth c (.moreMembers written) c' ∧
      Closes limits (depth - 1) frames (.obj (settle (((name, v) :: done).reverse ++ written))) c' result

/-- What the state of the reader says about the result. -/
def Explains (limits : Limits) (depth : Nat) (frames : List Frame) (c : Cursor)
    (result : Json × Cursor) : Awaiting → Prop
  | .value => ∃ v c', Spans limits depth c (.value v) c' ∧ Closes limits depth frames v c' result
  | .following v => Closes limits depth frames v c result

variable {limits : Limits}

/-- Whatever is read follows the grammar. -/
theorem explains_of_decodeLoop {fuel depth : Nat} {c : Cursor} {frames : List Frame}
    {awaiting : Awaiting} {result : Json × Cursor}
    (h : decodeLoop limits fuel c frames depth awaiting = .ok result) :
    Explains limits depth frames c result awaiting := by
  fun_induction decodeLoop limits fuel c frames depth awaiting with
  | case1 => contradiction
  | case2 => contradiction
  | case3 => contradiction
  | case4 fuel c frames depth rest hopen hdepth inner after hclose ih =>
      exact ⟨.arr [], _, .emptyArray hopen (Nat.lt_of_not_le hdepth) hclose, ih h⟩
  | case5 fuel c frames depth rest hopen hdepth inner _ ih =>
      obtain ⟨v, c₁, hfirst, items, c₂, hmore, hcloses⟩ := ih h
      exact ⟨.arr (v :: items), c₂, .array hopen (Nat.lt_of_not_le hdepth) hfirst hmore, hcloses⟩
  | case6 => contradiction
  | case7 fuel c frames depth rest hopen hdepth inner after hclose ih =>
      exact ⟨.obj [], _, .ofObject (.emptyObject hopen (Nat.lt_of_not_le hdepth) hclose), ih h⟩
  | case8 => contradiction
  | case9 fuel c frames depth rest hopen hdepth inner name c₀ hname _ ih =>
      obtain ⟨v, c₁, hfirst, written, c₂, hmore, hcloses⟩ := ih h
      exact ⟨.obj (settle ((name, v) :: written)), c₂,
        .ofObject (.object hopen (Nat.lt_of_not_le hdepth) hname hfirst hmore), hcloses⟩
  | case10 => contradiction
  | case11 fuel c frames depth first rest _ _ hfirst hquote s c' hscan ih =>
      rw [eq_of_beq hquote] at hfirst
      exact ⟨.str s, c', .string hfirst hscan, ih h⟩
  | case12 => contradiction
  | case13 fuel c frames depth first rest _ _ _ _ v c' hscan ih =>
      exact ⟨v, c', .scalar hscan, ih h⟩
  | case14 => exact (Except.ok.inj h).symm
  | case15 fuel c done frames depth v c' after hclose ih =>
      refine ⟨[], _, .closeArray hclose, ?_⟩
      rw [List.append_nil]
      exact ih h
  | case16 fuel c done frames depth v c' rest hcomma ih =>
      obtain ⟨next, c₁, hnext, items, c₂, hmore, hcloses⟩ := ih h
      refine ⟨next :: items, c₂, .nextItem hcomma hnext hmore, ?_⟩
      rwa [List.reverse_cons, List.append_assoc, List.singleton_append] at hcloses
  | case17 => contradiction
  | case18 fuel c done name frames depth v c' after hclose ih =>
      refine ⟨[], _, .closeObject hclose, ?_⟩
      rw [List.append_nil]
      exact ih h
  | case19 => contradiction
  | case20 fuel c done name frames depth v c' rest hcomma next c₀ hname ih =>
      obtain ⟨w, c₁, hnext, written, c₂, hmore, hcloses⟩ := ih h
      refine ⟨(next, w) :: written, c₂, .nextMember hcomma hname hnext hmore, ?_⟩
      rwa [List.reverse_cons, List.append_assoc, List.singleton_append] at hcloses
  | case21 => contradiction

/-! ## What the grammar reads is read -/

/-- A value begins with something else than a closing bracket. -/
theorem Spans.head_ne {depth : Nat} {c c' : Cursor} {v : Json}
    (h : Spans limits depth c (.value v) c') (rest : List Char) : c.rest ≠ ']' :: rest := by
  intro hrest
  have hfirst : ∀ first more, c.rest = first :: more → first = ']' := fun first more hcons =>
    (List.cons.inj (hcons.symm.trans hrest)).1
  cases h with
  | scalar hscan =>
      obtain ⟨first, more, hcons, hbegins⟩ := (isScalarAt_of_scanScalar hscan).begins
      rw [hfirst first more hcons] at hbegins
      contradiction
  | string hquote => exact absurd (hfirst _ _ hquote) (by decide)
  | emptyArray hopen => exact absurd (hfirst _ _ hopen) (by decide)
  | array hopen => exact absurd (hfirst _ _ hopen) (by decide)
  | ofObject hobject =>
      cases hobject with
      | emptyObject hopen => exact absurd (hfirst _ _ hopen) (by decide)
      | object hopen => exact absurd (hfirst _ _ hopen) (by decide)

/-- The reader between two rounds. -/
structure Reader where
  cursor : Cursor
  frames : List Frame
  depth : Nat
  awaiting : Awaiting

def Reader.run (limits : Limits) (fuel : Nat) (r : Reader) : Except Fault (Json × Cursor) :=
  decodeLoop limits fuel r.cursor r.frames r.depth r.awaiting

/-- What one round can do, unless it ends the reading. -/
inductive Round (limits : Limits) : Reader → Reader → Prop where
  | scalar {c c' : Cursor} {frames : List Frame} {depth : Nat} {v : Json}
      (hscan : scanScalar limits.digits c = .ok (v, c')) :
      Round limits ⟨c, frames, depth, .value⟩ ⟨c', frames, depth, .following v⟩
  | string {c c' : Cursor} {frames : List Frame} {depth : Nat} {rest : List Char} {s : String}
      (hquote : c.rest = Text.doubleQuote :: rest)
      (hscan : scanString c.offset rest (c.offset + 1) .plain none [] = .ok (s, c')) :
      Round limits ⟨c, frames, depth, .value⟩ ⟨c', frames, depth, .following (.str s)⟩
  | emptyArray {c : Cursor} {frames : List Frame} {depth : Nat} {rest after : List Char}
      (hopen : c.rest = '[' :: rest) (hdepth : depth < limits.nesting)
      (hclose : (Cursor.skip ⟨rest, c.offset + 1⟩).rest = ']' :: after) :
      Round limits ⟨c, frames, depth, .value⟩
        ⟨⟨after, (Cursor.skip ⟨rest, c.offset + 1⟩).offset + 1⟩, frames, depth,
          .following (.arr [])⟩
  | openArray {c : Cursor} {frames : List Frame} {depth : Nat} {rest : List Char}
      (hopen : c.rest = '[' :: rest) (hdepth : depth < limits.nesting)
      (hother : ∀ after, (Cursor.skip ⟨rest, c.offset + 1⟩).rest ≠ ']' :: after) :
      Round limits ⟨c, frames, depth, .value⟩
        ⟨Cursor.skip ⟨rest, c.offset + 1⟩, .array [] :: frames, depth + 1, .value⟩
  | closeArray {c : Cursor} {frames : List Frame} {depth : Nat} {after : List Char}
      {done : List Json} {v : Json} (hclose : c.skip.rest = ']' :: after) :
      Round limits ⟨c, .array done :: frames, depth, .following v⟩
        ⟨⟨after, c.skip.offset + 1⟩, frames, depth - 1, .following (.arr (v :: done).reverse)⟩
  | nextItem {c : Cursor} {frames : List Frame} {depth : Nat} {rest : List Char} {done : List Json}
      {v : Json} (hcomma : c.skip.rest = ',' :: rest) :
      Round limits ⟨c, .array done :: frames, depth, .following v⟩
        ⟨Cursor.skip ⟨rest, c.skip.offset + 1⟩, .array (v :: done) :: frames, depth, .value⟩
  | emptyObject {c : Cursor} {frames : List Frame} {depth : Nat} {rest after : List Char}
      (hopen : c.rest = '{' :: rest) (hdepth : depth < limits.nesting)
      (hclose : (Cursor.skip ⟨rest, c.offset + 1⟩).rest = '}' :: after) :
      Round limits ⟨c, frames, depth, .value⟩
        ⟨⟨after, (Cursor.skip ⟨rest, c.offset + 1⟩).offset + 1⟩, frames, depth,
          .following (.obj [])⟩
  | openObject {c c' : Cursor} {frames : List Frame} {depth : Nat} {rest : List Char} {name : String}
      (hopen : c.rest = '{' :: rest) (hdepth : depth < limits.nesting)
      (hname : scanName (Cursor.skip ⟨rest, c.offset + 1⟩) = .ok (name, c')) :
      Round limits ⟨c, frames, depth, .value⟩ ⟨c', .object [] name :: frames, depth + 1, .value⟩
  | closeObject {c : Cursor} {frames : List Frame} {depth : Nat} {after : List Char}
      {done : List (String × Json)} {name : String} {v : Json}
      (hclose : c.skip.rest = '}' :: after) :
      Round limits ⟨c, .object done name :: frames, depth, .following v⟩
        ⟨⟨after, c.skip.offset + 1⟩, frames, depth - 1,
          .following (.obj (settle ((name, v) :: done).reverse))⟩
  | nextMember {c c' : Cursor} {frames : List Frame} {depth : Nat} {rest : List Char}
      {done : List (String × Json)} {name next : String} {v : Json}
      (hcomma : c.skip.rest = ',' :: rest)
      (hname : scanName (Cursor.skip ⟨rest, c.skip.offset + 1⟩) = .ok (next, c')) :
      Round limits ⟨c, .object done name :: frames, depth, .following v⟩
        ⟨c', .object ((name, v) :: done) next :: frames, depth, .value⟩

/-- Where neither an array nor an object begins. -/
theorem decodeLoop_plain {fuel depth : Nat} {c : Cursor} {frames : List Frame} {first : Char}
    {rest : List Char} (hfirst : c.rest = first :: rest) (harray : first ≠ '[')
    (hobject : first ≠ '{') :
    decodeLoop limits (fuel + 1) c frames depth .value =
      if first == Text.doubleQuote then
        match scanString c.offset rest (c.offset + 1) .plain none [] with
        | .error fault => .error fault
        | .ok (s, c) => decodeLoop limits fuel c frames depth (.following (.str s))
      else
        match scanScalar limits.digits c with
        | .error fault => .error fault
        | .ok (value, c) => decodeLoop limits fuel c frames depth (.following value) := by
  rw [decodeLoop]
  split
  · next hnil => simp [hnil] at hfirst
  · next hopen => exact absurd (List.cons.inj (hopen.symm.trans hfirst)).1.symm harray
  · next hopen => exact absurd (List.cons.inj (hopen.symm.trans hfirst)).1.symm hobject
  · next other more _ _ hother =>
    obtain ⟨rfl, rfl⟩ := List.cons.inj (hother.symm.trans hfirst)
    rfl

theorem run_of_round {r r' : Reader} (h : Round limits r r') (fuel : Nat) :
    r.run limits (fuel + 1) = r'.run limits fuel := by
  unfold Reader.run
  cases h with
  | scalar hscan =>
      obtain ⟨first, rest, hfirst, hbegins⟩ := (isScalarAt_of_scanScalar hscan).begins
      have hne : ∀ other, beginsScalar other = false → first ≠ other := by
        rintro other hother rfl
        exact Bool.false_ne_true (hother.symm.trans hbegins)
      dsimp only
      rw [decodeLoop_plain hfirst (hne _ (by decide)) (hne _ (by decide)),
        beq_eq_false_iff_ne.2 (hne _ (by decide)), if_neg Bool.false_ne_true, hscan]
  | string hquote hscan =>
      dsimp only
      rw [decodeLoop_plain hquote (by decide) (by decide), beq_self_eq_true, if_pos rfl, hscan]
  | emptyArray hopen hdepth hclose =>
      simp only [decodeLoop, hopen, hclose]
      rw [if_neg (Nat.not_le.2 hdepth)]
  | openArray hopen hdepth hother =>
      simp only [decodeLoop, hopen]
      rw [if_neg (Nat.not_le.2 hdepth)]
  | closeArray hclose => simp only [decodeLoop, hclose]
  | nextItem hcomma => simp only [decodeLoop, hcomma]
  | emptyObject hopen hdepth hclose =>
      simp only [decodeLoop, hopen, hclose]
      rw [if_neg (Nat.not_le.2 hdepth)]
  | openObject hopen hdepth hname =>
      simp only [decodeLoop, hopen]
      rw [if_neg (Nat.not_le.2 hdepth)]
      split
      · next hclose => exact absurd hclose (head_ne_of_scanName hname _)
      · rw [hname]
  | closeObject hclose => simp only [decodeLoop, hclose]
  | nextMember hcomma hname => simp only [decodeLoop, hcomma, hname]

/-- So many rounds, one after the other. -/
inductive Rounds (limits : Limits) : Nat → Reader → Reader → Prop where
  | none {r : Reader} : Rounds limits 0 r r
  | next {n : Nat} {r r' r'' : Reader} (hround : Round limits r r')
      (hrounds : Rounds limits n r' r'') : Rounds limits (n + 1) r r''

theorem Rounds.of_round {r r' : Reader} (h : Round limits r r') : Rounds limits 1 r r' :=
  .next h .none

theorem Rounds.trans {m n : Nat} {r r' r'' : Reader} (h : Rounds limits m r r')
    (h' : Rounds limits n r' r'') : Rounds limits (m + n) r r'' := by
  induction h with
  | none => rwa [Nat.zero_add]
  | next hround _ ih =>
      rw [Nat.add_right_comm]
      exact .next hround (ih h')

theorem run_of_rounds {n : Nat} {r r' : Reader} (h : Rounds limits n r r') (fuel : Nat) :
    r.run limits (fuel + n) = r'.run limits fuel := by
  induction h with
  | none => rfl
  | next hround _ ih => rw [← Nat.add_assoc, run_of_round hround, ih]

/-- The reader reads a phrase in so many rounds, whatever else is open. -/
def ReadIn (limits : Limits) (n depth : Nat) (c c' : Cursor) : Phrase → Prop
  | .value v => ∀ frames,
    Rounds limits n ⟨c, frames, depth, .value⟩ ⟨c', frames, depth, .following v⟩
  | .object written => ∀ frames,
    Rounds limits n ⟨c, frames, depth, .value⟩
      ⟨c', frames, depth, .following (.obj (settle written))⟩
  | .moreItems items => ∀ frames done v,
    Rounds limits n ⟨c, .array done :: frames, depth, .following v⟩
      ⟨c', frames, depth - 1, .following (.arr ((v :: done).reverse ++ items))⟩
  | .moreMembers written => ∀ frames done name v,
    Rounds limits n ⟨c, .object done name :: frames, depth, .following v⟩
      ⟨c', frames, depth - 1, .following (.obj (settle (((name, v) :: done).reverse ++ written)))⟩

/-- A phrase is read in no more rounds than it has characters. -/
theorem exists_readIn {depth : Nat} {c c' : Cursor} {phrase : Phrase}
    (h : Spans limits depth c phrase c') :
    ∃ n, n + c'.rest.length ≤ c.rest.length ∧ ReadIn limits n depth c c' phrase := by
  induction h with
  | scalar hscan =>
      have hlength := (isScalarAt_of_scanScalar hscan).length_lt
      exact ⟨1, by omega, fun frames => .of_round (.scalar hscan)⟩
  | string hquote hscan =>
      refine ⟨1, ?_, fun frames => .of_round (.string hquote hscan)⟩
      have hlength := length_lt_of_scanString hscan
      rw [hquote, List.length_cons]
      omega
  | @emptyArray depth c rest after hopen hdepth hclose =>
      refine ⟨1, ?_, fun frames => .of_round (.emptyArray hopen hdepth hclose)⟩
      have hclosed := length_lt_of_skip hclose
      show 1 + after.length ≤ c.rest.length
      rw [hopen, List.length_cons]
      dsimp only at hclosed
      omega
  | @array depth c c₁ c₂ rest v items hopen hdepth hfirst hmore ihfirst ihmore =>
      obtain ⟨m, hm, hread⟩ := ihfirst
      obtain ⟨n, hn, hrest⟩ := ihmore
      refine ⟨m + n + 1, ?_, fun frames => ?_⟩
      · have hskip := length_skip_mk_le rest (c.offset + 1)
        rw [hopen, List.length_cons]
        omega
      · exact .next (.openArray hopen hdepth hfirst.head_ne)
          ((hread (.array [] :: frames)).trans (hrest frames [] v))
  | @closeArray depth c after hclose =>
      refine ⟨1, ?_, fun frames done v => ?_⟩
      · have hclosed := length_lt_of_skip hclose
        show 1 + after.length ≤ c.rest.length
        omega
      · rw [List.append_nil]
        exact .of_round (.closeArray hclose)
  | @nextItem depth c c₁ c₂ rest v items hcomma hnext hmore ihnext ihmore =>
      obtain ⟨m, hm, hread⟩ := ihnext
      obtain ⟨n, hn, hrest⟩ := ihmore
      refine ⟨m + n + 1, ?_, fun frames done w => ?_⟩
      · have hbefore := length_lt_of_skip hcomma
        have hinner := length_skip_mk_le rest (c.skip.offset + 1)
        omega
      · have hrounds := (hread (.array (w :: done) :: frames)).trans (hrest frames (w :: done) v)
        rw [List.reverse_cons, List.append_assoc, List.singleton_append] at hrounds
        exact .next (.nextItem hcomma) hrounds
  | ofObject hobject ih => exact ih
  | @emptyObject depth c rest after hopen hdepth hclose =>
      refine ⟨1, ?_, fun frames => .of_round (.emptyObject hopen hdepth hclose)⟩
      have hclosed := length_lt_of_skip hclose
      show 1 + after.length ≤ c.rest.length
      rw [hopen, List.length_cons]
      dsimp only at hclosed
      omega
  | @object depth c c₀ c₁ c₂ rest name v written hopen hdepth hname hfirst hmore ihfirst ihmore =>
      obtain ⟨m, hm, hread⟩ := ihfirst
      obtain ⟨n, hn, hrest⟩ := ihmore
      refine ⟨m + n + 1, ?_, fun frames => ?_⟩
      · have hskip := length_skip_mk_le rest (c.offset + 1)
        have hlength := length_lt_of_scanName hname
        rw [hopen, List.length_cons]
        omega
      · exact .next (.openObject hopen hdepth hname)
          ((hread (.object [] name :: frames)).trans (hrest frames [] name v))
  | @closeObject depth c after hclose =>
      refine ⟨1, ?_, fun frames done name v => ?_⟩
      · have hclosed := length_lt_of_skip hclose
        show 1 + after.length ≤ c.rest.length
        omega
      · rw [List.append_nil]
        exact .of_round (.closeObject hclose)
  | @nextMember depth c c₀ c₁ c₂ rest name v written hcomma hname hnext hmore ihnext ihmore =>
      obtain ⟨m, hm, hread⟩ := ihnext
      obtain ⟨n, hn, hrest⟩ := ihmore
      refine ⟨m + n + 1, ?_, fun frames done last w => ?_⟩
      · have hbefore := length_lt_of_skip hcomma
        have hinner := length_skip_mk_le rest (c.skip.offset + 1)
        have hlength := length_lt_of_scanName hname
        omega
      · have hrounds := (hread (.object ((last, w) :: done) name :: frames)).trans
          (hrest frames ((last, w) :: done) name v)
        rw [List.reverse_cons, List.append_assoc, List.singleton_append] at hrounds
        exact .next (.nextMember hcomma hname) hrounds

/-! ## Whole texts -/

/-- The text is one phrase with separators around it. -/
def Reads (limits : Limits) (text : List Char) (phrase : Phrase) : Prop :=
  ∃ c, Spans limits 0 (Cursor.skip ⟨text, 0⟩) phrase c ∧ c.skip.rest = []

theorem decodeText_eq_ok_iff {text : List Char} {v : Json} :
    decodeText limits text = .ok v ↔ Reads limits text (.value v) := by
  unfold decodeText Reads
  constructor
  · intro h
    split at h
    · contradiction
    · next value c hloop =>
      obtain ⟨w, c', hspans, hcloses⟩ := explains_of_decodeLoop hloop
      obtain ⟨rfl, rfl⟩ := Prod.mk.inj hcloses
      dsimp only at h
      split_ifs at h with hempty
      obtain rfl := Except.ok.inj h
      exact ⟨c, hspans, by simpa using hempty⟩
  · rintro ⟨c, hspans, hempty⟩
    obtain ⟨n, hn, hread⟩ := exists_readIn hspans
    have hskip := length_skip_mk_le text 0
    obtain ⟨spare, hspare⟩ : ∃ spare, text.length + 2 = spare + 1 + n :=
      ⟨text.length + 1 - n, by omega⟩
    have hloop : decodeLoop limits (text.length + 2) (Cursor.skip ⟨text, 0⟩) [] 0 .value =
        .ok (v, c) := by
      rw [hspare]
      exact run_of_rounds (hread []) (spare + 1)
    rw [hloop]
    dsimp only
    rw [hempty]
    rfl

/-- A text that is an object is read as its members, settled. -/
theorem reads_obj_iff {text : List Char} {members : List (String × Json)} :
    Reads limits text (.value (.obj members)) ↔
      ∃ written, Reads limits text (.object written) ∧ settle written = members := by
  constructor
  · rintro ⟨c, hspans, hempty⟩
    cases hspans with
    | scalar hscan =>
        exact absurd rfl ((isScalarAt_of_scanScalar hscan).not_object members)
    | @ofObject _ _ _ written hobject => exact ⟨written, ⟨c, hobject, hempty⟩, rfl⟩
  · rintro ⟨written, ⟨c, hspans, hempty⟩, rfl⟩
    exact ⟨c, .ofObject hspans, hempty⟩

/-! ## The last member of a name -/

/-- The value that is written last under a name. -/
def IsLast (name : String) (v : Json) (written : List (String × Json)) : Prop :=
  ∃ before after, written = before ++ (name, v) :: after ∧ ∀ entry ∈ after, entry.1 ≠ name

theorem isLast_concat_iff {name key : String} {v w : Json} {front : List (String × Json)} :
    IsLast name v (front ++ [(key, w)]) ↔
      (key = name ∧ w = v) ∨ (key ≠ name ∧ IsLast name v front) := by
  constructor
  · rintro ⟨before, after, hsplit, hafter⟩
    rcases List.eq_nil_or_concat after with rfl | ⟨inner, last, rfl⟩
    · obtain ⟨-, hlast⟩ := List.append_inj' hsplit rfl
      obtain ⟨rfl, rfl⟩ := Prod.mk.inj (List.singleton_inj.1 hlast)
      exact .inl ⟨rfl, rfl⟩
    · rw [List.concat_eq_append, ← List.cons_append, ← List.append_assoc] at hsplit
      obtain ⟨rfl, hlast⟩ := List.append_inj' hsplit rfl
      obtain rfl := List.singleton_inj.1 hlast
      refine .inr ⟨hafter (key, w) (by simp), before, inner, rfl, fun entry hentry => ?_⟩
      exact hafter entry (by simp [hentry])
  · rintro (⟨rfl, rfl⟩ | ⟨hkey, before, after, rfl, hafter⟩)
    · exact ⟨front, [], rfl, by simp⟩
    · refine ⟨before, after ++ [(key, w)], by simp, fun entry hentry => ?_⟩
      rcases List.mem_append.1 hentry with hentry | hentry
      · exact hafter entry hentry
      · obtain rfl := List.mem_singleton.1 hentry
        exact hkey

/-- Members are settled by the last value of each name. -/
theorem lookup_settle_eq_some_iff {name : String} {v : Json} {written : List (String × Json)} :
    lookup name (settle written) = some v ↔ IsLast name v written := by
  induction written using List.reverseRecOn with
  | nil =>
      refine iff_of_false (by simp [settle, lookup]) ?_
      rintro ⟨before, after, hsplit, -⟩
      simp at hsplit
  | append_singleton front entry ih =>
      obtain ⟨key, w⟩ := entry
      have hsettle : settle (front ++ [(key, w)]) = assign key w (settle front) := by
        rw [settle, List.foldl_append]
        rfl
      rw [hsettle, isLast_concat_iff]
      by_cases hkey : key = name
      · subst hkey
        rw [lookup_assign_self]
        simp
      · rw [lookup_assign_of_ne hkey, ih]
        simp [hkey]

end Grounding.Json
