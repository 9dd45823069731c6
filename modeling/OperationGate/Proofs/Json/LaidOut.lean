import OperationGate.Json.Shape
import OperationGate.Proofs.Json.Reading
import OperationGate.Proofs.Table
import OperationGate.Proofs.Text.Parts

/-!
# Laid-out texts are read

A value that is laid out over lines is read as from its compact text (`Source.read?_layOut`): the
blanks between its parts do not count. So a reader that expects a shape takes from it what it takes
from the value (`readAs?_pretty`), and texts by name are taken as they are (`Source.readAs?_texts`).
-/

namespace OperationGate.Json

open Text

namespace Source

/-! ## Blanks -/

lemma skipGap_newline (depth : Nat) (cs : List Char) :
    skipGap (newline depth ++ cs) = skipGap cs := by
  have hblank : ∀ c ∈ newline depth, isGap c := by
    intro c hc
    rcases List.mem_cons.1 hc with rfl | hc
    · rfl
    · rw [List.eq_of_mem_replicate hc]
      rfl
  rw [skipGap, skipGap, List.dropWhile_append_of_pos hblank]

lemma isEnd_newline (depth : Nat) (cs : List Char) : NumberSource.IsEnd (newline depth ++ cs) :=
  isEnd_cons (by decide) _

/-- A value that is laid out starts as its compact text does. -/
lemma exists_layOut_eq {v : Json} (hv : EveryNumber JsonNumber.IsFinite v) (depth : Nat) :
    ∃ c cs, v.layOut depth = c :: cs ∧ isStart c := by
  cases v with
  | null => exact ⟨_, _, rfl, rfl⟩
  | bool b => cases b <;> exact ⟨_, _, rfl, rfl⟩
  | number n => exact exists_write_eq hv
  | text s => exact ⟨_, _, rfl, rfl⟩
  | list items => cases items <;> exact ⟨_, _, rfl, rfl⟩
  | record members => cases members <;> exact ⟨_, _, rfl, rfl⟩

lemma skipGap_layOut {v : Json} (hv : EveryNumber JsonNumber.IsFinite v) (depth : Nat)
    (rest : List Char) : skipGap (v.layOut depth ++ rest) = v.layOut depth ++ rest := by
  obtain ⟨c, cs, hlaid, hc⟩ := exists_layOut_eq hv depth
  rw [hlaid]
  exact skipGap_cons (isStart_spec hc).1 _

/-! ## Values -/

/-- Tells that a value is read where it is laid out. -/
def IsLaidBack (v : Json) : Prop :=
  ∀ {depth : Nat} {cs rest : List Char}, NumberSource.IsEnd rest →
    skipGap cs = v.layOut depth ++ rest → Reads (readValue cs) (ofJson v) rest

lemma readItems_layOut {items : List Json} (hne : items ≠ [])
    (hitems : ∀ v ∈ items, EveryNumber JsonNumber.IsFinite v) (ih : ∀ v ∈ items, IsLaidBack v)
    {first : Bool} {depth last : Nat} {rest : List Char} :
    Reads (readItems first (layOutItems depth items ++ (newline last ++ ']' :: rest)))
      (ofItems items) rest := by
  induction items generalizing first with
  | nil => exact absurd rfl hne
  | cons v items ihs =>
    have hv := hitems v List.mem_cons_self
    have hskip : ∀ rest, skipGap (newline depth ++ (v.layOut depth ++ rest)) =
        v.layOut depth ++ rest :=
      fun rest => (skipGap_newline depth _).trans (skipGap_layOut hv depth rest)
    have hhead : ∀ rest, (v.layOut depth ++ rest).head? ≠ some ']' := by
      intro rest hbracket
      obtain ⟨c, cs, hlaid, hc⟩ := exists_layOut_eq hv depth
      rw [hlaid] at hbracket
      exact (isStart_spec hc).2 (Option.some.inj hbracket)
    cases items with
    | nil =>
      rw [layOutItems, List.append_assoc]
      exact readItems_last (by rw [hskip]; exact hhead _)
        (ih v List.mem_cons_self (isEnd_newline _ _) (hskip _))
        ((skipGap_newline _ _).trans (skipGap_cons rfl _))
    | cons w items =>
      rw [layOutItems, List.append_assoc, List.append_assoc, List.cons_append]
      · have hrest : ∀ u ∈ w :: items, u ∈ v :: w :: items := fun u hu => List.mem_cons_of_mem _ hu
        exact readItems_more (by rw [hskip]; exact hhead _)
          (ih v List.mem_cons_self (isEnd_cons (by decide) _) (hskip _)) (skipGap_cons rfl _)
          (ihs (by simp) (fun u hu => hitems u (hrest u hu)) fun u hu => ih u (hrest u hu))
      · simp

lemma readMembers_layOut {members : List (String × Json)} (hne : members ≠ [])
    (hmembers : ∀ m ∈ members, EveryNumber JsonNumber.IsFinite m.2)
    (ih : ∀ m ∈ members, IsLaidBack m.2) {first : Bool} {depth last : Nat} {rest : List Char} :
    Reads (readMembers first (layOutMembers depth members ++ (newline last ++ '\x7d' :: rest)))
      (ofMembers members) rest := by
  induction members generalizing first with
  | nil => exact absurd rfl hne
  | cons m members ihs =>
    obtain ⟨k, v⟩ := m
    have hv := hmembers (k, v) List.mem_cons_self
    have hname : ∀ rest, skipGap (newline depth ++ (writeText k ++ rest)) =
        '"' :: (k.toList.flatMap escape ++ '"' :: rest) := by
      intro rest
      rw [skipGap_newline, writeText, List.cons_append, List.cons_append, List.append_assoc,
        List.singleton_append]
      exact skipGap_cons rfl _
    have hskip : ∀ rest, skipGap (' ' :: (v.layOut depth ++ rest)) = v.layOut depth ++ rest :=
      fun rest => skipGap_layOut hv depth rest
    cases members with
    | nil =>
      rw [layOutMembers, List.append_assoc, List.append_assoc, List.cons_append, List.cons_append]
      exact readMembers_last (hname _) (readUnits_writeText _ _) (skipGap_cons rfl _)
        (ih _ List.mem_cons_self (isEnd_newline _ _) (hskip _))
          ((skipGap_newline _ _).trans (skipGap_cons rfl _))
    | cons w members =>
      rw [layOutMembers, List.append_assoc, List.append_assoc, List.append_assoc, List.cons_append,
        List.cons_append, List.cons_append]
      · have hrest : ∀ u ∈ w :: members, u ∈ (k, v) :: w :: members :=
          fun u hu => List.mem_cons_of_mem _ hu
        exact readMembers_more (hname _) (readUnits_writeText _ _) (skipGap_cons rfl _)
          (ih _ List.mem_cons_self (isEnd_cons (by decide) _) (hskip _)) (skipGap_cons rfl _)
          (ihs (by simp) (fun u hu => hmembers u (hrest u hu)) fun u hu => ih u (hrest u hu))
      · simp

/-- A value is read where it is laid out. -/
lemma readValue_layOut {v : Json} (hv : EveryNumber JsonNumber.IsFinite v) : IsLaidBack v := by
  induction v using inductionOn with
  | null => exact fun _ h => readValue_null h
  | bool b =>
    cases b with
    | false => exact fun _ h => readValue_false h
    | true => exact fun _ h => readValue_true h
  | number n => exact fun hend h => readValue_write hv hend h
  | text s => exact fun hend h => readValue_write hv hend h
  | list items ih =>
    cases hv with
    | list hitems =>
      intro depth cs rest _ h
      cases items with
      | nil => exact readValue_list h (readItems_nil (skipGap_cons rfl _))
      | cons v items =>
        rw [layOut, List.cons_append, List.append_assoc, List.cons_append, List.append_assoc] at h
        · exact readValue_list h
            (readItems_layOut (by simp) hitems fun u hu => ih u hu (hitems u hu))
        · simp
  | record members ih =>
    cases hv with
    | record hmembers =>
      intro depth cs rest _ h
      cases members with
      | nil => exact readValue_record h (readMembers_nil (skipGap_cons rfl _))
      | cons m members =>
        rw [layOut, List.cons_append, List.append_assoc, List.cons_append, List.append_assoc] at h
        · exact readValue_record h
            (readMembers_layOut (by simp) hmembers fun u hu => ih u hu (hmembers u hu))
        · simp

/-- The laid-out text of a value is read as the value was written, also with blanks behind it. -/
theorem read?_layOut {v : Json} (hv : EveryNumber JsonNumber.IsFinite v) (depth : Nat)
    {gap : List Char} (hgap : ∀ c ∈ gap, isGap c) :
    read? (v.layOut depth ++ gap) = some (ofJson v) := by
  have hend : NumberSource.IsEnd gap := by
    intro c hc
    have hblank := hgap c (List.mem_of_mem_head? hc)
    simp only [isGap, Bool.or_eq_true, decide_eq_true_eq] at hblank
    rcases hblank with ((rfl | rfl) | rfl) | rfl <;> decide
  obtain ⟨hr, hread⟩ := (readValue_layOut hv hend (skipGap_layOut hv depth gap)).exists_eq
  have hskip : skipGap gap = [] := List.dropWhile_eq_nil_iff.2 hgap
  rw [read?, hread]
  simp [hskip]

/-! ## Records of texts -/

lemma namedMembers?_ofMembers (members : List (String × Json)) :
    namedMembers? (ofMembers members) = some (members.map fun m => (m.1, ofJson m.2)) := by
  induction members with
  | nil => rfl
  | cons m members ih => rw [ofMembers, namedMembers?, textOf?_map, ih]; rfl

/-- Texts by name are read as they are. -/
theorem readAs?_texts (depth : Nat) (t : Table String) :
    readAs? (depth + 1) (.map .text) (ofJson (.record (t.entries.map fun e => (e.1, .text e.2)))) =
      some (.record (t.entries.map fun e => (e.1, .text e.2))) := by
  have htext : ∀ s, readAs? depth .text (ofJson (.text s)) = some (.text s) := by
    intro s
    rw [ofJson, readAs?, toJson?, textOf?_map, Option.map_some]
  have hread : ((t.entries.map fun e => (e.1, Json.text e.2)).map fun m => (m.1, ofJson m.2)).mapM
      (fun m => (readAs? depth .text m.2).map fun v => (m.1, v)) =
      some (t.entries.map fun e => (e.1, .text e.2)) := by
    rw [List.mapM_map, List.mapM_map]
    refine mapM_eq_map fun e _ => ?_
    rw [Function.comp_apply, Function.comp_apply, htext, Option.map_some]
  have hascending : (t.entries.map fun e => (e.1, Json.text e.2)).Pairwise fun a b => a.1 < b.1 :=
    List.pairwise_map.2 t.ascending
  rw [ofJson, readAs?, namedMembers?_ofMembers, Option.bind_eq_bind, Option.bind_some, hread]
  exact congrArg (fun es => some (Json.record es)) (Table.entries_ofList hascending)

end Source

/-- A reader that expects a shape takes from a laid-out text what it takes from the value. -/
theorem readAs?_pretty {v : Json} (hv : EveryNumber JsonNumber.IsFinite v) (shape : Shape)
    {gap : String} (hgap : ∀ c ∈ gap.toList, Source.isGap c) :
    readAs? shape (v.pretty ++ gap) = (Source.ofJson v).readAs? maxDepth shape := by
  have hchars : (v.pretty ++ gap).toList = v.layOut 0 ++ gap.toList := by
    rw [String.toList_append, pretty, String.toList_ofList]
  rw [readAs?, hchars, Source.read?_layOut hv 0 hgap, Option.bind_eq_bind, Option.bind_some]

end OperationGate.Json
