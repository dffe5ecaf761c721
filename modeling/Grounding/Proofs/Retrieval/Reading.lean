import Grounding.Proofs.Gateway.RetrievalShape
import Grounding.Proofs.Retrieval.FiniteNumbers

/-!
# Reading a reply

Any object is a reply.  Each part of it is read from a member of its own and each entry of a list by itself,
so that what cannot be read is left out or replaced by a default, and everything else is as if nothing were
wrong.
-/

namespace Grounding

/-! ## Kinds of values -/

namespace Json

def isObject : Json → Bool
  | .obj _ => true
  | _ => false

def isText : Json → Bool
  | .str _ => true
  | _ => false

/-- The entries of a member that should be a list; what is no list has none. -/
def entriesOf (name : String) (members : List (String × Json)) : List Json :=
  match lookup name members with
  | some (.arr items) => items
  | _ => []

/-- The member is there and neither null nor a list. -/
def isMisplaced (name : String) (members : List (String × Json)) : Bool :=
  match lookup name members with
  | none | some .null | some (.arr _) => false
  | _ => true

theorem entriesOf_of_lookup {name : String} {members : List (String × Json)} {items : List Json}
    (h : lookup name members = some (.arr items)) : entriesOf name members = items := by
  rw [entriesOf, h]

end Json

/-- What a text field is read as: the text that stands there, and the default in place of all else. -/
inductive ReadsText (default : String) : Option Json → String → Prop
  | text (s : String) : ReadsText default (some (.str s)) s
  | default {field : Option Json} (h : ∀ s, field ≠ some (.str s)) :
      ReadsText default field default

theorem readsText_lenientText (members : List (String × Json)) (name default : String) :
    ReadsText default (Json.lookup name members) (lenientText members name default) := by
  unfold lenientText
  split
  · next s hfield =>
    rw [hfield]
    exact .text s
  · next hother => exact .default hother

theorem lenientText_congr {a b : List (String × Json)} {name : String} (default : String)
    (h : Json.lookup name a = Json.lookup name b) :
    lenientText a name default = lenientText b name default := by
  rw [lenientText, h, lenientText]

theorem lenientNumber_congr {a b : List (String × Json)} {name : String}
    (h : Json.lookup name a = Json.lookup name b) :
    lenientNumber a name = lenientNumber b name := by
  rw [lenientNumber, h, lenientNumber]

/-! ## Entries -/

namespace Passage

/-- The reading of one entry, part by part. -/
structure Decodes (p : Passage) (members : List (String × Json)) : Prop where
  content : ReadsText "" (Json.lookup "content" members) p.content
  source : ReadsText "unknown" (Json.lookup "source" members) p.source
  similarity : ReadsNumber (Json.lookup "similarity" members) p.similarity

/-- Two entries that agree on a member are read alike as far as that member goes. -/
structure AgreesWith (p q : Passage) (a b : List (String × Json)) : Prop where
  content : Json.lookup "content" a = Json.lookup "content" b → p.content = q.content
  source : Json.lookup "source" a = Json.lookup "source" b → p.source = q.source
  similarity : Json.lookup "similarity" a = Json.lookup "similarity" b →
    p.similarity = q.similarity

variable {p q : Passage} {members a b : List (String × Json)}

theorem decodes_of_ofReply? (h : ofReply? (.obj members) = some p) : p.Decodes members := by
  obtain rfl := Option.some.inj h
  constructor
  · exact readsText_lenientText members "content" ""
  · exact readsText_lenientText members "source" "unknown"
  · exact readsNumber_lenientNumber members "similarity"

theorem agreesWith_of_ofReply? (hp : ofReply? (.obj a) = some p)
    (hq : ofReply? (.obj b) = some q) : p.AgreesWith q a b := by
  obtain rfl := Option.some.inj hp
  obtain rfl := Option.some.inj hq
  exact ⟨lenientText_congr "", lenientText_congr "unknown", lenientNumber_congr⟩

theorem isNone_ofReply? (v : Json) : (ofReply? v).isNone = !v.isObject := by
  cases v <;> rfl

/-- Exactly the objects are read, each by itself and in the order in which they stand. -/
theorem map_some_filterMap_ofReply? (items : List Json) :
    (items.filterMap ofReply?).map some = (items.filter Json.isObject).map ofReply? := by
  induction items with
  | nil => rfl
  | cons v rest ih =>
      cases v with
      | obj members =>
          have hread : ∃ p, ofReply? (.obj members) = some p := ⟨_, rfl⟩
          obtain ⟨p, hp⟩ := hread
          rw [List.filterMap_cons_some hp, List.map_cons, ih,
            List.filter_cons_of_pos (p := Json.isObject) rfl, List.map_cons, hp]
      | _ => exact ih

end Passage

/-! ## Replies -/

namespace Findings

/-- Exactly the texts are kept, in the order in which they stand. -/
theorem map_str_filterMap_text? (items : List Json) :
    (items.filterMap text?).map .str = items.filter Json.isText := by
  induction items with
  | nil => rfl
  | cons v rest ih =>
      cases v with
      | str s =>
          have hread : text? (.str s) = some s := rfl
          rw [List.filterMap_cons_some hread, List.map_cons, ih,
            List.filter_cons_of_pos (p := Json.isText) rfl]
      | _ => exact ih

/-- The reading of a reply, part by part, with one notice for each entry of the passages that is no object
and one for each of the two lists that is something else. -/
structure Decodes (found : Noted Findings) (members : List (String × Json)) : Prop where
  passages : found.value.passages.map some =
    ((Json.entriesOf "chunks" members).filter Json.isObject).map Passage.ofReply?
  tools : found.value.tools.map .str =
    (Json.entriesOf "suggested_tools" members).filter Json.isText
  context : ReadsText "" (Json.lookup "augmented_context" members) found.value.context
  serviceLatency : ReadsNumber (Json.lookup "latency_ms" members) found.value.serviceLatency
  notices : found.notices =
    (Json.entriesOf "chunks" members).countP (fun item => !item.isObject) +
      (Json.isMisplaced "chunks" members).toNat +
      (Json.isMisplaced "suggested_tools" members).toNat

/-- Two replies that agree on a member are read alike as far as that member goes. -/
structure AgreesWith (f g : Findings) (a b : List (String × Json)) : Prop where
  passages : Json.lookup "chunks" a = Json.lookup "chunks" b → f.passages = g.passages
  tools : Json.lookup "suggested_tools" a = Json.lookup "suggested_tools" b → f.tools = g.tools
  context : Json.lookup "augmented_context" a = Json.lookup "augmented_context" b →
    f.context = g.context
  serviceLatency : Json.lookup "latency_ms" a = Json.lookup "latency_ms" b →
    f.serviceLatency = g.serviceLatency

variable {members a b : List (String × Json)}

theorem passages_ofMembers (members : List (String × Json)) :
    (ofMembers members).value.passages = (readPassages members).value := rfl

theorem tools_ofMembers (members : List (String × Json)) :
    (ofMembers members).value.tools = (readTools members).value := rfl

theorem notices_ofMembers (members : List (String × Json)) :
    (ofMembers members).notices = (readPassages members).notices + (readTools members).notices :=
  rfl

/-- The passages are the entries that read, and the notices all other entries or the list itself. -/
theorem readPassages_eq (members : List (String × Json)) :
    readPassages members =
      ⟨(Json.entriesOf "chunks" members).filterMap Passage.ofReply?,
        (Json.entriesOf "chunks" members).countP (fun item => !item.isObject) +
          (Json.isMisplaced "chunks" members).toNat⟩ := by
  unfold readPassages Json.getD Json.entriesOf Json.isMisplaced
  cases Json.lookup "chunks" members with
  | none => rfl
  | some v =>
      cases v with
      | arr items =>
          have hcount : (items.countP fun item => (Passage.ofReply? item).isNone) =
              items.countP fun item => !item.isObject := by
            simp only [Passage.isNone_ofReply?]
          rw [Option.getD_some]
          dsimp only
          rw [passagesOf, hcount]
          rfl
      | _ => rfl

theorem readTools_eq (members : List (String × Json)) :
    readTools members =
      ⟨(Json.entriesOf "suggested_tools" members).filterMap text?,
        (Json.isMisplaced "suggested_tools" members).toNat⟩ := by
  unfold readTools Json.getD Json.entriesOf Json.isMisplaced
  cases Json.lookup "suggested_tools" members with
  | none => rfl
  | some v => cases v <;> rfl

theorem decodes_ofMembers (members : List (String × Json)) :
    Decodes (ofMembers members) members := by
  constructor
  · rw [passages_ofMembers, readPassages_eq]
    exact Passage.map_some_filterMap_ofReply? _
  · rw [tools_ofMembers, readTools_eq]
    exact map_str_filterMap_text? _
  · exact readsText_lenientText members "augmented_context" ""
  · exact readsNumber_lenientNumber members "latency_ms"
  · rw [notices_ofMembers, readPassages_eq, readTools_eq]

theorem agreesWith_ofMembers (a b : List (String × Json)) :
    (ofMembers a).value.AgreesWith (ofMembers b).value a b where
  passages h := by
    rw [passages_ofMembers, readPassages, Json.getD, h, passages_ofMembers, readPassages, Json.getD]
  tools h := by
    rw [tools_ofMembers, readTools, Json.getD, h, tools_ofMembers, readTools, Json.getD]
  context h := lenientText_congr "" h
  serviceLatency h := lenientNumber_congr h

/-- An entry only decides about its own place among the passages. -/
theorem passages_of_lookup {front back : List Json} {item : Json}
    (h : Json.lookup "chunks" members = some (.arr (front ++ item :: back))) :
    (ofMembers members).value.passages =
      front.filterMap Passage.ofReply? ++ (Passage.ofReply? item).toList ++
        back.filterMap Passage.ofReply? := by
  rw [passages_ofMembers, readPassages_eq, Json.entriesOf_of_lookup h, List.filterMap_append,
    List.append_assoc]
  dsimp only
  cases hitem : Passage.ofReply? item with
  | none => rw [List.filterMap_cons_none hitem, Option.toList_none, List.nil_append]
  | some p => rw [List.filterMap_cons_some hitem, Option.toList_some, List.singleton_append]

theorem ofJson_of_not_object {v : Json} (h : v.isObject = false) : ofJson v = .error ⟨v.kind⟩ := by
  cases v with
  | obj members => contradiction
  | _ => rfl

/-- Reading a reply is total on objects and refuses all else.  It keeps every entry that can be read in its
place, takes every part from its own member alone, and says how much it left out. -/
theorem lenient_reading :
    (∀ members, ∃ found, ofJson (.obj members) = .ok found ∧ Decodes found members ∧
      ∀ latency, (⟨latency, .ok found.value⟩ : Retrieval).Succeeded) ∧
    (∀ members, ∃ p, Passage.ofReply? (.obj members) = some p ∧ p.Decodes members) ∧
    (∀ a b found other, ofJson (.obj a) = .ok found → ofJson (.obj b) = .ok other →
      found.value.AgreesWith other.value a b) ∧
    (∀ a b p q, Passage.ofReply? (.obj a) = some p → Passage.ofReply? (.obj b) = some q →
      p.AgreesWith q a b) ∧
    (∀ front back, ∃ before after, ∀ item members found,
      Json.lookup "chunks" members = some (.arr (front ++ item :: back)) →
      ofJson (.obj members) = .ok found →
      found.value.passages = before ++ (Passage.ofReply? item).toList ++ after) ∧
    ∀ v, v.isObject = false → ofJson v = .error ⟨v.kind⟩ := by
  refine ⟨?_, ?_, ?_, ?_, ?_, fun v => ofJson_of_not_object⟩
  · intro members
    exact ⟨ofMembers members, rfl, decodes_ofMembers members,
      fun latency => Retrieval.succeeded_of_ok rfl⟩
  · intro members
    obtain ⟨p, hp⟩ : ∃ p, Passage.ofReply? (.obj members) = some p := ⟨_, rfl⟩
    exact ⟨p, hp, Passage.decodes_of_ofReply? hp⟩
  · intro a b found other hfound hother
    obtain rfl := Except.ok.inj hfound
    obtain rfl := Except.ok.inj hother
    exact agreesWith_ofMembers a b
  · intro a b p q hp hq
    exact Passage.agreesWith_of_ofReply? hp hq
  · intro front back
    refine ⟨front.filterMap Passage.ofReply?, back.filterMap Passage.ofReply?, ?_⟩
    intro item members found hsent hfound
    obtain rfl := Except.ok.inj hfound
    exact passages_of_lookup hsent

/-- A reply with a mistyped context, an entry that is no object and tools that are no list. -/
def patchyReply : List (String × Json) :=
  [("augmented_context", .int 42),
    ("chunks", .arr [.str "gone", .obj [("content", .str "kept"), ("source", .null)]]),
    ("suggested_tools", .str "calc")]

/-- The same with an object in place of the entry that was none. -/
def mendedReply : List (String × Json) :=
  Json.assign "chunks" (.arr [.obj [], .obj [("content", .str "kept"), ("source", .null)]])
    patchyReply

theorem lenient_reading_patchy :
    (∃ found, ofJson (.obj patchyReply) = .ok found ∧ found.value.context = "" ∧
      found.value.passages.map some =
        [Passage.ofReply? (.obj [("content", .str "kept"), ("source", .null)])] ∧
      found.notices = 2) ∧
    (ofMembers patchyReply).value.passages =
      (ofMembers (Json.assign "augmented_context" (.str "now") patchyReply)).value.passages ∧
    (∃ before after, (ofMembers patchyReply).value.passages = before ++ [] ++ after ∧
      (ofMembers mendedReply).value.passages =
        before ++ (Passage.ofReply? (.obj [])).toList ++ after) ∧
    ofJson (.arr []) = .error ⟨"list"⟩ := by
  obtain ⟨htotal, -, hagrees, -, hplace, hrefused⟩ := lenient_reading
  refine ⟨?_, ?_, ?_, hrefused (.arr []) rfl⟩
  · obtain ⟨found, hfound, hdecodes, -⟩ := htotal patchyReply
    refine ⟨found, hfound, ?_, hdecodes.passages, hdecodes.notices⟩
    generalize hcontext : found.value.context = context
    have hreads := hdecodes.context
    rw [hcontext] at hreads
    cases hreads with
    | default => rfl
  · have hsame : Json.lookup "chunks" patchyReply =
        Json.lookup "chunks" (Json.assign "augmented_context" (.str "now") patchyReply) := by
      rw [Json.lookup_assign_of_ne (by decide)]
    exact (hagrees _ _ _ _ rfl rfl).passages hsame
  · obtain ⟨before, after, hparts⟩ :=
      hplace [] [.obj [("content", .str "kept"), ("source", .null)]]
    have hmended : Json.lookup "chunks" mendedReply =
        some (.arr [.obj [], .obj [("content", .str "kept"), ("source", .null)]]) :=
      Json.lookup_assign_self _ _ _
    exact ⟨before, after, hparts (.str "gone") patchyReply _ rfl rfl,
      hparts (.obj []) mendedReply _ hmended rfl⟩

end Findings

end Grounding
