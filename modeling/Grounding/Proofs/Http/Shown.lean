import Grounding.Http.Surface
import Grounding.Proofs.Context.Whole
import Grounding.Proofs.Conversation.LastUser
import Grounding.Proofs.Json.ShortIntegers
import Grounding.Proofs.Retrieval.FiniteNumbers
import Grounding.Proofs.Settings.Checked

/-!
# What a response can show

A response shows a value as it is exactly if its numbers are finite, its integers short and its texts whole.
Integers that came with a call are short, in messages as well as in settings, and the service adds none.  So
it is texts that keep a value from being shown: a text in front of a message is no obstacle if it is whole, and
a block of passages is whole if its passages are.
-/

namespace Grounding

/-! ## Values in a response -/

namespace Http

theorem finiteItems_eq_map (items : List Json) : finiteItems items = items.map finiteOnly := by
  induction items with
  | nil => rfl
  | cons v rest ih => rw [finiteItems, ih, List.map_cons]

theorem finiteMembers_eq_map (members : List (String × Json)) :
    finiteMembers members = members.map fun entry => (entry.1, finiteOnly entry.2) := by
  induction members with
  | nil => rfl
  | cons entry rest ih => rw [finiteMembers, ih, List.map_cons]

/-- A number that is not finite is all that a response replaces. -/
theorem finiteOnly_eq_self_iff (v : Json) : finiteOnly v = v ↔ v.IsFinite := by
  induction v using Json.inductionOnParts with
  | null | bool | int | str => simp [finiteOnly]
  | real x => cases hx : x.isFinite <;> simp [finiteOnly, hx]
  | arr items ih =>
      have hitems : items.map finiteOnly = items ↔ ∀ v ∈ items, finiteOnly v = v := by
        simpa using List.map_inj_left (f := finiteOnly) (g := id) (l := items)
      rw [finiteOnly, finiteItems_eq_map, Json.arr.injEq, hitems]
      exact (forall₂_congr ih).trans Json.every_arr.symm
  | obj members ih =>
      have hmembers : members.map (fun entry => (entry.1, finiteOnly entry.2)) = members ↔
          ∀ entry ∈ members, finiteOnly entry.2 = entry.2 := by
        simpa [Prod.ext_iff] using List.map_inj_left (f := fun entry : String × Json =>
          (entry.1, finiteOnly entry.2)) (g := id) (l := members)
      rw [finiteOnly, finiteMembers_eq_map, Json.obj.injEq, hmembers]
      exact (forall₂_congr ih).trans Json.every_obj.symm

theorem isFinite_finiteOnly (v : Json) : (finiteOnly v).IsFinite := by
  induction v using Json.inductionOnParts with
  | null | bool | int | str => trivial
  | real x => cases hx : x.isFinite <;> simp [finiteOnly, hx]
  | arr items ih =>
      rw [finiteOnly, finiteItems_eq_map]
      exact Json.every_arr.2 (List.forall_mem_map.2 ih)
  | obj members ih =>
      rw [finiteOnly, finiteMembers_eq_map]
      exact Json.every_obj.2 (List.forall_mem_map.2 ih)

theorem shortIntegers_finiteOnly_iff (v : Json) :
    (finiteOnly v).HasShortIntegers ↔ v.HasShortIntegers := by
  induction v using Json.inductionOnParts with
  | null | bool | int | str => rfl
  | real x => cases hx : x.isFinite <;> simp [finiteOnly, hx]
  | arr items ih =>
      rw [finiteOnly, finiteItems_eq_map]
      exact Json.every_arr.trans (List.forall_mem_map.trans
        ((forall₂_congr ih).trans Json.every_arr.symm))
  | obj members ih =>
      rw [finiteOnly, finiteMembers_eq_map]
      exact Json.every_obj.trans (List.forall_mem_map.trans
        ((forall₂_congr ih).trans Json.every_obj.symm))

theorem isWhole_finiteOnly_iff (v : Json) : (finiteOnly v).isWhole = true ↔ v.isWhole = true := by
  induction v using Json.inductionOnParts with
  | null | bool | int | str => rfl
  | real x => cases hx : x.isFinite <;> simp [finiteOnly, hx, Json.isWhole]
  | arr items ih =>
      rw [finiteOnly, finiteItems_eq_map, Json.isWhole_arr, Json.isWhole_arr, List.forall_mem_map]
      exact forall₂_congr ih
  | obj members ih =>
      rw [finiteOnly, finiteMembers_eq_map, Json.isWhole_obj, Json.isWhole_obj, List.forall_mem_map]
      exact forall₂_congr fun entry hentry => and_congr_right fun _ => ih entry hentry

namespace Response

variable {v : Json}

theorem sendFault?_finiteOnly_iff :
    (finiteOnly v).sendFault? = none ↔ v.HasShortIntegers ∧ v.isWhole = true := by
  rw [Json.sendFault?_eq_none_iff_parts, shortIntegers_finiteOnly_iff, isWhole_finiteOnly_iff]
  exact and_iff_right (isFinite_finiteOnly v)

theorem ok_of_whole (hshort : v.HasShortIntegers) (hwhole : v.isWhole = true) :
    ok v = ⟨200, .json (finiteOnly v)⟩ :=
  if_pos (Option.isNone_iff_eq_none.2 (sendFault?_finiteOnly_iff.2 ⟨hshort, hwhole⟩))

theorem ok_of_not_whole (h : ¬ (v.HasShortIntegers ∧ v.isWhole = true)) : ok v = internalError :=
  if_neg fun hnone => h (sendFault?_finiteOnly_iff.1 (Option.isNone_iff_eq_none.1 hnone))

/-- A value is shown in some form if its integers are short and its texts whole. -/
theorem ok_status_iff : (ok v).status = 200 ↔ v.HasShortIntegers ∧ v.isWhole = true := by
  by_cases h : v.HasShortIntegers ∧ v.isWhole = true
  · rw [ok_of_whole h.1 h.2]
    exact iff_of_true rfl h
  · rw [ok_of_not_whole h]
    exact iff_of_false (by decide) h

/-- A value of finite numbers is shown if it can be sent. -/
theorem ok_eq_iff_of_isFinite (h : v.IsFinite) : ok v = ⟨200, .json v⟩ ↔ v.sendFault? = none := by
  rw [ok, (finiteOnly_eq_self_iff v).2 h]
  split_ifs with hsend
  · exact iff_of_true rfl (Option.isNone_iff_eq_none.1 hsend)
  · refine iff_of_false (by simp [internalError]) fun hnone => hsend ?_
    exact Option.isNone_iff_eq_none.2 hnone

/-- A value is shown as it is if its numbers are finite, too. -/
theorem ok_eq_iff (hshort : v.HasShortIntegers) :
    ok v = ⟨200, .json v⟩ ↔ v.IsFinite ∧ v.isWhole = true := by
  by_cases h : v.isWhole = true
  · rw [ok_of_whole hshort h, Response.mk.injEq, Content.json.injEq, finiteOnly_eq_self_iff]
    simp [h]
  · rw [ok_of_not_whole fun hboth => h hboth.2]
    exact iff_of_false (by simp [internalError]) fun hboth => h hboth.2

end Response

/-! ## Member names -/

section Names

variable {platform : Platform} {v shown : Json} {p : Json → Prop}

theorem mem_of_shownItems {items others : List Json} (h : shownItems platform items = some others)
    {w : Json} (hw : w ∈ others) : ∃ v ∈ items, shownNames platform v = some w := by
  induction items generalizing others with
  | nil =>
      obtain rfl := Option.some.inj h
      simp at hw
  | cons v rest ih =>
      rw [shownItems] at h
      split at h
      · next first others' hfirst hothers =>
        obtain rfl := Option.some.inj h
        rcases List.mem_cons.1 hw with rfl | hw
        · exact ⟨v, List.mem_cons_self, hfirst⟩
        · obtain ⟨u, hu, hshown⟩ := ih hothers hw
          exact ⟨u, List.mem_cons_of_mem v hu, hshown⟩
      · contradiction

theorem mem_of_shownMembers {members others : List (String × Json)}
    (h : shownMembers platform members = some others) {entry : String × Json}
    (hentry : entry ∈ others) : ∃ old ∈ members, shownNames platform old.2 = some entry.2 := by
  induction members generalizing others with
  | nil =>
      obtain rfl := Option.some.inj h
      simp at hentry
  | cons old rest ih =>
      rw [shownMembers] at h
      split at h
      · next key first others' _ hfirst hothers =>
        obtain rfl := Option.some.inj h
        rcases List.mem_cons.1 hentry with rfl | hentry
        · exact ⟨old, List.mem_cons_self, hfirst⟩
        · obtain ⟨u, hu, hshown⟩ := ih hothers hentry
          exact ⟨u, List.mem_cons_of_mem old hu, hshown⟩
      · contradiction

/-- Names are shown in another form, but all scalars are what they were. -/
theorem every_of_shownNames (h : shownNames platform v = some shown) (hv : v.Every p) :
    shown.Every p := by
  induction v using Json.inductionOnParts generalizing shown with
  | null | bool | int | real | str =>
      obtain rfl := Option.some.inj h
      exact hv
  | arr items ih =>
      obtain ⟨others, hothers, rfl⟩ := Option.map_eq_some_iff.1 h
      rw [Json.every_arr] at hv ⊢
      intro w hw
      obtain ⟨u, hu, hshown⟩ := mem_of_shownItems hothers hw
      exact ih u hu hshown (hv u hu)
  | obj members ih =>
      obtain ⟨others, hothers, rfl⟩ := Option.map_eq_some_iff.1 h
      have hvalues : (Json.obj others).Every p := by
        rw [Json.every_obj] at hv ⊢
        intro entry hentry
        obtain ⟨old, hold, hshown⟩ := mem_of_shownMembers hothers hentry
        exact ih old hold hshown (hv old hold)
      split_ifs
      · exact hvalues
      · exact hvalues.settle

theorem shownItems_of_forall {items : List Json}
    (h : ∀ v ∈ items, shownNames platform v = some v) : shownItems platform items = some items := by
  induction items with
  | nil => rfl
  | cons v rest ih =>
      obtain ⟨hv, hrest⟩ := List.forall_mem_cons.1 h
      rw [shownItems, hv, ih hrest]

theorem shownMembers_of_forall {members : List (String × Json)}
    (h : ∀ entry ∈ members, Text.isWhole entry.1 = true ∧
      shownNames platform entry.2 = some entry.2) :
    shownMembers platform members = some members := by
  induction members with
  | nil => rfl
  | cons entry rest ih =>
      obtain ⟨⟨hname, hv⟩, hrest⟩ := List.forall_mem_cons.1 h
      rw [shownMembers, if_pos hname, hv, ih hrest]

/-- A value whose texts are whole is shown with the names that it has. -/
theorem shownNames_of_isWhole (h : v.isWhole = true) : shownNames platform v = some v := by
  induction v using Json.inductionOnParts with
  | null | bool | int | real | str => rfl
  | arr items ih =>
      rw [Json.isWhole_arr] at h
      rw [shownNames, shownItems_of_forall fun v hv => ih v hv (h v hv), Option.map_some]
  | obj members ih =>
      rw [Json.isWhole_obj] at h
      have hnames : (members.all fun entry => Text.isWhole entry.1) = true :=
        List.all_eq_true.2 fun entry hentry => (h entry hentry).1
      rw [shownNames, shownMembers_of_forall fun entry hentry =>
        ⟨(h entry hentry).1, ih entry hentry (h entry hentry).2⟩, Option.map_some, if_pos hnames]

end Names

end Http

/-! ## Retrievals -/

theorem Passage.isFinite_toJson {p : Passage} : p.toJson.IsFinite ↔ p.similarity.isFinite = true := by
  simp [Passage.toJson]

theorem Passage.isWhole_toJson {p : Passage} : p.toJson.isWhole = true ↔ p.IsWhole := by
  have hnames : Text.isWhole "content" = true ∧ Text.isWhole "source" = true ∧
      Text.isWhole "similarity" = true := by
    decide +kernel
  obtain ⟨hcontent, hsource, hsimilarity⟩ := hnames
  simp only [Passage.toJson, Json.isWhole_obj, List.forall_mem_cons, hcontent, hsource, hsimilarity,
    Json.isWhole_str, Json.isWhole_real, List.not_mem_nil, false_imp_iff, implies_true, true_and,
    and_true]
  exact ⟨fun h => ⟨h.1, h.2⟩, fun h => ⟨h.content, h.source⟩⟩

namespace Retrieval

variable {r : Retrieval}

/-- Of a retrieval with finite findings only the measured latency may be a number that is not finite. -/
theorem isFinite_toJson (h : ∀ found, r.outcome = .ok found → found.HasFiniteNumbers) :
    r.toJson.IsFinite ↔ r.latency.isFinite = true := by
  have hzero : Binary64.zero.isFinite = true := by decide +kernel
  cases hout : r.outcome with
  | error refusal => simp [toJson, hout, hzero]
  | ok found =>
      have hfound := h found hout
      have hpassages : ∀ p ∈ found.passages, p.toJson.IsFinite := fun p hp =>
        Passage.isFinite_toJson.2 (hfound.similarity p hp)
      simpa [toJson, hout, hfound.serviceLatency] using fun _ => hpassages

theorem shortIntegers_toJson (r : Retrieval) : r.toJson.HasShortIntegers := by
  cases hout : r.outcome with
  | error refusal => simp [toJson, hout]
  | ok found => simp [toJson, hout, Passage.toJson]

theorem isWhole_toJson_of_error {refusal : Refusal} (h : r.outcome = .error refusal)
    (hmessage : Text.isWhole refusal.message = true) : r.toJson.isWhole = true := by
  have hnames : (["augmented_context", "chunks", "suggested_tools", "latency_ms",
      "service_latency_ms", "success", "error_message", "error_kind", ""].all Text.isWhole) = true := by
    decide +kernel
  simp only [List.all_cons, Bool.and_eq_true] at hnames
  have hkind : Text.isWhole refusal.kind.name = true := by
    cases refusal.kind <;> decide +kernel
  simp [toJson, h, hnames, hmessage, hkind]

/-- A retrieval that can be shown provides a context that can be encoded. -/
theorem isWhole_contextOf (h : r.toJson.isWhole = true) :
    Text.isWhole (Gateway.contextOf r) = true := by
  unfold Gateway.contextOf
  cases hout : r.outcome with
  | error refusal => exact (by decide : Text.isWhole "" = true)
  | ok found =>
      have hcontext : (Json.str found.context).isWhole = true :=
        Json.isWhole_of_lookup h "augmented_context" (by simp [Json.lookup, hout])
      have hpassages : (Json.arr (found.passages.map Passage.toJson)).isWhole = true :=
        Json.isWhole_of_lookup h "chunks" (by simp [Json.lookup, hout])
      rw [Json.isWhole_arr, List.forall_mem_map] at hpassages
      dsimp only
      split_ifs
      · exact hcontext
      · exact Context.isWhole_render fun p hp => Passage.isWhole_toJson.1 (hpassages p hp)

end Retrieval

/-! ## Messages -/

namespace Conversation

variable {lead : String} {content : Option Json} {message messages : Json}

section Every

variable {p : Json → Prop} (hstring : ∀ s, p (.str s))
include hstring

theorem every_prefaced (h : ∀ v, content = some v → v.Every p) : (prefaced lead content).Every p := by
  cases content with
  | none => exact hstring lead
  | some v =>
      cases v with
      | arr parts =>
          exact Json.every_arr.2 (List.forall_mem_cons.2
            ⟨by simpa using ⟨hstring _, hstring _⟩, Json.every_arr.1 (h _ rfl)⟩)
      | _ => exact hstring _

theorem every_prefaceMessage (h : message.Every p) : (prefaceMessage lead message).Every p := by
  cases message with
  | obj members => exact h.assign (every_prefaced hstring fun v => h.lookup) "content"
  | _ => exact h

/-- A text in front brings no scalars but texts. -/
theorem every_inject (h : messages.Every p) (context : String) (today : Date) :
    (inject messages context today).Every p := by
  cases huser : hasUserMessage messages with
  | false => rwa [inject_of_none huser]
  | true =>
      obtain ⟨before, message, after, rfl, hlast⟩ := exists_isLastUser huser
      rw [hlast.inject]
      simp only [Json.every_arr, List.forall_mem_append, List.forall_mem_cons] at h ⊢
      obtain ⟨hbefore, hmessage, hafter⟩ := h
      exact ⟨hbefore, every_prefaceMessage hstring hmessage, hafter⟩

end Every

theorem isWhole_prefaced (hlead : Text.isWhole lead = true)
    (h : ∀ v, content = some v → v.isWhole = true) : (prefaced lead content).isWhole = true := by
  have hnames : Text.isWhole "type" = true ∧ Text.isWhole "text" = true := by decide +kernel
  cases content with
  | none => exact hlead
  | some v =>
      have hv := h v rfl
      cases v with
      | arr parts =>
          exact Json.isWhole_arr.2 (List.forall_mem_cons.2
            ⟨by simp [hnames, hlead], Json.isWhole_arr.1 hv⟩)
      | str text =>
          rw [Json.isWhole_str] at hv
          rw [prefaced, Json.isWhole_str, Text.isWhole_append, hlead, hv]
          rfl
      | _ => exact hlead

theorem isWhole_prefaceMessage (hlead : Text.isWhole lead = true) (h : message.isWhole = true) :
    (prefaceMessage lead message).isWhole = true := by
  cases message with
  | obj members =>
      exact Json.isWhole_assign h (by decide +kernel)
        (isWhole_prefaced hlead fun v => Json.isWhole_of_lookup h "content")
  | _ => exact h

/-- A context that can be encoded spoils no messages. -/
theorem isWhole_inject {context : String} (hcontext : Text.isWhole context = true)
    (h : messages.isWhole = true) (today : Date) : (inject messages context today).isWhole = true := by
  cases huser : hasUserMessage messages with
  | false => rwa [inject_of_none huser]
  | true =>
      obtain ⟨before, message, after, rfl, hlast⟩ := exists_isLastUser huser
      rw [hlast.inject]
      simp only [Json.isWhole_arr, List.forall_mem_append, List.forall_mem_cons] at h ⊢
      obtain ⟨hbefore, hmessage, hafter⟩ := h
      exact ⟨hbefore, isWhole_prefaceMessage (isWhole_preface hcontext today) hmessage, hafter⟩

end Conversation

end Grounding
