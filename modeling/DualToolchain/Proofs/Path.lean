import DualToolchain.Path
import Mathlib.Tactic.Common

/-! The components of a path. None of them has a slash in it, so the text of a relative path is read
as that path. A text with an ending that has no slash in it names a path whose last component has
that ending, whatever comes before: the slashes, dots and double dots of the text cannot remove it.
A text that begins with a name names a path below that name, and a path below another one is told by
the way from there. -/

namespace DualToolchain.Path

theorem pieces_of_no_slash {cs : List Char} (h : '/' ∉ cs) : pieces cs = [cs] := by
  induction cs with
  | nil => rfl
  | cons c cs ih =>
    have hc : c ≠ '/' := fun hc => h (hc ▸ List.mem_cons_self)
    rw [pieces, if_neg hc, ih fun hm => h (List.mem_cons_of_mem c hm)]

theorem slash_notMem_of_mem_pieces {cs piece : List Char} (h : piece ∈ pieces cs) :
    '/' ∉ piece := by
  induction cs generalizing piece with
  | nil =>
    obtain rfl := List.mem_singleton.mp h
    exact List.not_mem_nil
  | cons c cs ih =>
    rw [pieces] at h
    split_ifs at h with hc
    · rcases List.mem_cons.mp h with rfl | h
      · exact List.not_mem_nil
      · exact ih h
    · split at h
      · obtain rfl := List.mem_singleton.mp h
        simpa [eq_comm] using hc
      · rename_i p ps hps
        rcases List.mem_cons.mp h with rfl | h
        · have hp : '/' ∉ p := ih (hps ▸ List.mem_cons_self)
          simp [hp, Ne.symm hc]
        · exact ih (hps ▸ List.mem_cons_of_mem p h)

theorem slash_notMem_parts {s part : String} (h : part ∈ (ofString s).parts) :
    '/' ∉ part.toList := by
  obtain ⟨piece, hp, rfl⟩ := List.mem_map.mp h
  rw [String.toList_ofList]
  exact slash_notMem_of_mem_pieces (List.mem_filter.mp hp).1

/-- What a text can have as a component of its path. -/
def IsPart (part : String) : Prop :=
  '/' ∉ part.toList ∧ isComponent part.toList = true

instance (part : String) : Decidable (IsPart part) :=
  inferInstanceAs (Decidable (_ ∧ _))

theorem isPart_of_mem_parts {s part : String} (h : part ∈ (ofString s).parts) : IsPart part := by
  refine ⟨slash_notMem_parts h, ?_⟩
  obtain ⟨piece, hp, rfl⟩ := List.mem_map.mp h
  rw [String.toList_ofList]
  exact (List.mem_filter.mp hp).2

/-! ### Roots -/

theorem rootOf_eq_relative_iff {cs : List Char} : rootOf cs = .relative ↔ cs.head? ≠ some '/' := by
  cases cs with
  | nil => decide
  | cons c cs =>
    by_cases hc : c = '/'
    · rw [rootOf, List.takeWhile_cons_of_pos (by simpa using hc), List.length_cons]
      split <;> simp_all
    · rw [rootOf, List.takeWhile_cons_of_neg (by simpa using hc)]
      simpa using hc

theorem rootOf_append {cs : List Char} (hslash : '/' ∉ cs) (hcomp : isComponent cs = true)
    (rest : List Char) : rootOf (cs ++ rest) = .relative := by
  match cs, hcomp with
  | c :: cs, _ =>
    have hc : c ≠ '/' := fun hc => hslash (hc ▸ List.mem_cons_self)
    simpa [rootOf_eq_relative_iff] using hc

theorem root_ofString_append {s ending : String} (hs : (ofString s).root = .relative)
    (h : '/' ∉ ending.toList) : (ofString (s ++ ending)).root = .relative := by
  have hs' : s.toList.head? ≠ some '/' := rootOf_eq_relative_iff.mp hs
  refine rootOf_eq_relative_iff.mpr fun hhead => ?_
  rw [String.toList_append, List.head?_append] at hhead
  cases hcs : s.toList with
  | nil =>
    rw [hcs] at hhead
    exact h (List.mem_of_head? hhead)
  | cons c cs =>
    rw [hcs] at hhead hs'
    exact hs' hhead

/-! ### Endings -/

/-- An ending without a slash stays in one piece, the last; the pieces before it and what stands
before it in its own piece are the same for all endings. -/
theorem exists_pieces_append (cs : List Char) :
    ∃ front last, ∀ ending, '/' ∉ ending → pieces (cs ++ ending) = front ++ [last ++ ending] := by
  induction cs with
  | nil => exact ⟨[], [], fun ending h => pieces_of_no_slash h⟩
  | cons c cs ih =>
    obtain ⟨front, last, ih⟩ := ih
    by_cases hc : c = '/'
    · refine ⟨[] :: front, last, fun ending h => ?_⟩
      rw [List.cons_append, pieces, if_pos hc, ih ending h, List.cons_append]
    · -- The character goes to the first piece, which is the last one if there is no other.
      cases front with
      | nil =>
        refine ⟨[], c :: last, fun ending h => ?_⟩
        rw [List.cons_append, pieces, if_neg hc, ih ending h]
        rfl
      | cons p ps =>
        refine ⟨(c :: p) :: ps, last, fun ending h => ?_⟩
        rw [List.cons_append, pieces, if_neg hc, ih ending h]
        rfl

theorem isComponent_append {ending : List Char} (hlen : 2 ≤ ending.length) (cs : List Char) :
    isComponent (cs ++ ending) = true := by
  have hlen' : 2 ≤ (cs ++ ending).length := by
    rw [List.length_append]
    omega
  match cs ++ ending, hlen' with
  | _ :: _ :: _, _ => simp [isComponent]

theorem exists_parts_append (s : String) :
    ∃ front last, ∀ ending : String, '/' ∉ ending.toList → 2 ≤ ending.toList.length →
      (ofString (s ++ ending)).parts = front ++ [last ++ ending] := by
  obtain ⟨front, last, hpieces⟩ := exists_pieces_append s.toList
  refine ⟨(front.filter isComponent).map String.ofList, String.ofList last,
    fun ending h hlen => ?_⟩
  rw [ofString, String.toList_append, hpieces _ h, List.filter_append, List.map_append,
    List.filter_cons_of_pos (isComponent_append hlen last), List.filter_nil, List.map_singleton,
    String.ofList_append, String.ofList_toList]

theorem getLast?_parts_ofString {s ending : String} (h : '/' ∉ ending.toList)
    (hlen : 2 ≤ ending.toList.length) :
    ∃ last, (ofString (s ++ ending)).parts.getLast? = some (last ++ ending) := by
  obtain ⟨front, last, hparts⟩ := exists_parts_append s
  exact ⟨last, by rw [hparts ending h hlen, List.getLast?_concat]⟩

theorem getLast?_parts_child (p : Path) {s last : String}
    (h : (ofString s).parts.getLast? = some last) : (p.child s).parts.getLast? = some last := by
  rw [child, join]
  split_ifs
  · rw [List.getLast?_append, h]
    rfl
  · exact h

/-! ### The first component -/

/-- Characters that can begin a text as a component of its own: no slash is among them, and they are
longer than the dots with a meaning. -/
def IsName (cs : List Char) : Prop :=
  '/' ∉ cs ∧ 3 ≤ cs.length

instance (cs : List Char) : Decidable (IsName cs) :=
  inferInstanceAs (Decidable (_ ∧ _))

theorem IsName.isComponent {cs : List Char} (h : IsName cs) : isComponent cs = true := by
  match cs, h.2 with
  | _ :: _ :: _, _ => simp [Path.isComponent]

theorem IsName.isPart {s : String} (h : IsName s.toList) : IsPart s :=
  ⟨h.1, h.isComponent⟩

theorem IsName.ne_up {cs : List Char} (h : IsName cs) : String.ofList cs ≠ ".." := by
  intro heq
  have hlen := h.2
  have hcs : cs = "..".toList := by rw [← heq, String.toList_ofList]
  rw [hcs] at hlen
  exact absurd hlen (by decide)

theorem IsName.rootOf {cs : List Char} (h : IsName cs) (rest : List Char) :
    rootOf (cs ++ rest) = .relative :=
  rootOf_append h.1 h.isComponent rest

theorem pieces_append_slash {cs : List Char} (h : '/' ∉ cs) (rest : List Char) :
    pieces (cs ++ '/' :: rest) = cs :: pieces rest := by
  induction cs with
  | nil => rw [List.nil_append, pieces, if_pos rfl]
  | cons c cs ih =>
    have hc : c ≠ '/' := fun hc => h (hc ▸ List.mem_cons_self)
    rw [List.cons_append, pieces, if_neg hc, ih fun hm => h (List.mem_cons_of_mem c hm)]

theorem IsName.ofString {s : String} (h : IsName s.toList) : ofString s = ⟨.relative, [s]⟩ := by
  have hroot := h.rootOf []
  rw [List.append_nil] at hroot
  rw [Path.ofString, hroot, pieces_of_no_slash h.1, List.filter_cons_of_pos h.isComponent]
  simp

theorem IsName.ofString_slash {cs : List Char} (h : IsName cs) (rest : List Char) :
    Path.ofString (String.ofList (cs ++ '/' :: rest)) =
      ⟨.relative, String.ofList cs :: (Path.ofString (String.ofList rest)).parts⟩ := by
  rw [Path.ofString, String.toList_ofList, h.rootOf, pieces_append_slash h.1,
    List.filter_cons_of_pos h.isComponent, List.map_cons, Path.ofString, String.toList_ofList]

/-! ### Texts of paths -/

theorem pieces_intercalate {css : List (List Char)} (hne : css ≠ []) (h : ∀ cs ∈ css, '/' ∉ cs) :
    pieces (['/'].intercalate css) = css := by
  induction css with
  | nil => exact absurd rfl hne
  | cons cs rest ih =>
    obtain ⟨hcs, hrest⟩ := List.forall_mem_cons.mp h
    cases rest with
    | nil => rw [List.intercalate_singleton, pieces_of_no_slash hcs]
    | cons cs' rest =>
      rw [List.intercalate_cons_cons, List.append_assoc, List.singleton_append,
        pieces_append_slash hcs, ih (List.cons_ne_nil _ _) hrest]

theorem ofString_toString {parts : List String} (h : ∀ part ∈ parts, IsPart part) :
    ofString (toString ⟨.relative, parts⟩) = ⟨.relative, parts⟩ := by
  cases parts with
  | nil => decide
  | cons part rest =>
    have htext : (toString ⟨.relative, part :: rest⟩).toList =
        ['/'].intercalate ((part :: rest).map String.toList) := by
      simp [toString, PathRoot.text]
    have hroot : Path.rootOf (['/'].intercalate ((part :: rest).map String.toList)) =
        .relative := by
      have hpart := h part List.mem_cons_self
      cases rest with
      | nil => simpa using rootOf_append hpart.1 hpart.2 []
      | cons part' rest =>
        rw [List.map_cons, List.map_cons, List.intercalate_cons_cons, List.append_assoc]
        exact rootOf_append hpart.1 hpart.2 _
    have hslash : ∀ cs ∈ (part :: rest).map String.toList, '/' ∉ cs := by
      rintro cs hcs
      obtain ⟨p, hp, rfl⟩ := List.mem_map.mp hcs
      exact (h p hp).1
    have hcomp : ∀ cs ∈ (part :: rest).map String.toList, isComponent cs = true := by
      rintro cs hcs
      obtain ⟨p, hp, rfl⟩ := List.mem_map.mp hcs
      exact (h p hp).2
    rw [ofString, htext, hroot, pieces_intercalate (by simp) hslash,
      List.filter_eq_self.mpr hcomp, List.map_map]
    simp

/-! ### Paths below others -/

theorem join_of_relative (p : Path) {q : Path} (h : q.root = .relative) :
    p.join q = ⟨p.root, p.parts ++ q.parts⟩ := by
  rw [join, if_pos h]

theorem relativeTo?_join (p : Path) {q : Path} (h : q.root = .relative) :
    (p.join q).relativeTo? p = some q := by
  obtain ⟨root, parts⟩ := q
  obtain rfl : root = .relative := h
  simp [join_of_relative, relativeTo?]

theorem hasNul_join (p : Path) {q : Path} (h : q.root = .relative) :
    (p.join q).hasNul = (p.hasNul || q.hasNul) := by
  simp [join_of_relative p h, hasNul]

end DualToolchain.Path
