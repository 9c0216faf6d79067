import Mathlib.Data.List.TakeWhile
import ServiceBinding.Component.Uri

/-!
# The grammar of service URIs

A text is cut at its first colon, and at no other (`Cut.unique`); what stands before it is the name of a
component, which loses the blanks at its ends (`TrimsTo`, of which `trimsTo_iff` says that it is what
trimming does). `parse_cases` says what reading a text can come to; what is written of a URI that was read
reads as the same URI again (`ReadOff.text`).
-/

namespace ServiceBinding

/-! ## Trimmed texts -/

namespace Text

variable {whole part cs : List Char}

/-- The text `part` is the text `whole` without the blanks at its ends. -/
structure TrimsTo (whole part : List Char) : Prop where
  blanks : ∃ before after, (∀ c ∈ before ++ after, isBlank c = true) ∧ whole = before ++ part ++ after
  head : ∀ c, part.head? = some c → isBlank c = false
  last : ∀ c, part.getLast? = some c → isBlank c = false

theorem trimsTo_trimChars (cs : List Char) : TrimsTo cs (trimChars cs) where
  blanks := exists_blanks_append_trimChars cs
  head _ h := not_isBlank_of_head?_trimChars h
  last _ h := not_isBlank_of_getLast?_trimChars h

theorem dropWhile_isBlank_of_head (h : ∀ c, cs.head? = some c → isBlank c = false) :
    cs.dropWhile isBlank = cs := by
  cases cs with
  | nil => rfl
  | cons c cs =>
    have hc : isBlank c = false := h c rfl
    simp [hc]

/-- There is one way to trim a text. -/
theorem TrimsTo.trimChars_eq (h : TrimsTo whole part) : trimChars whole = part := by
  obtain ⟨⟨before, after, hblanks, rfl⟩, hhead, hlast⟩ := h
  have hbefore : ∀ c ∈ before, isBlank c = true := by
    intro c hc
    exact hblanks c (List.mem_append_left after hc)
  have hafter : ∀ c ∈ after.reverse, isBlank c = true := by
    intro c hc
    exact hblanks c (List.mem_append_right before (List.mem_reverse.1 hc))
  rw [trimChars, trimEnd, List.append_assoc, List.dropWhile_append_of_pos hbefore]
  cases part with
  | nil =>
    -- nothing is left, so the blanks at both ends are one run
    have hblank : ∀ c ∈ after, isBlank c = true := by
      intro c hc
      exact hafter c (List.mem_reverse.2 hc)
    rw [List.nil_append, List.dropWhile_eq_nil_iff.2 hblank]
    rfl
  | cons c part =>
    have hfirst : ((c :: part) ++ after).dropWhile isBlank = (c :: part) ++ after := by
      apply dropWhile_isBlank_of_head
      intro d hd
      exact hhead d hd
    have hreversed : (c :: part).reverse.dropWhile isBlank = (c :: part).reverse := by
      apply dropWhile_isBlank_of_head
      intro d hd
      exact hlast d (List.head?_reverse.symm.trans hd)
    rw [hfirst, List.reverse_append, List.dropWhile_append_of_pos hafter, hreversed,
      List.reverse_reverse]

theorem trimsTo_iff : TrimsTo whole part ↔ trimChars whole = part := by
  constructor
  · exact TrimsTo.trimChars_eq
  · rintro rfl
    exact trimsTo_trimChars whole

theorem TrimsTo.subset (h : TrimsTo whole part) : part ⊆ whole := by
  obtain ⟨before, after, -, rfl⟩ := h.blanks
  intro c hc
  simp [hc]

/-- A trimmed text has no more blanks to lose. -/
theorem TrimsTo.self (h : TrimsTo whole part) : TrimsTo part part where
  blanks := ⟨[], [], nofun, by simp⟩
  head := h.head
  last := h.last

/-- Nothing is left of blanks, and of nothing else. -/
theorem TrimsTo.eq_nil_iff (h : TrimsTo whole part) : part = [] ↔ ∀ c ∈ whole, isBlank c = true := by
  constructor
  · rintro rfl
    obtain ⟨before, after, hblanks, rfl⟩ := h.blanks
    simpa using hblanks
  · intro hblank
    have hnil : TrimsTo whole [] := ⟨⟨whole, [], by simpa using hblank, by simp⟩, nofun, nofun⟩
    rw [← h.trimChars_eq, hnil.trimChars_eq]

theorem TrimsTo.ne_nil_iff (h : TrimsTo whole part) : part ≠ [] ↔ ∃ c ∈ whole, isBlank c = false := by
  rw [ne_eq, h.eq_nil_iff]
  simp

end Text

/-! ## Service URIs -/

namespace ServiceUri

open Text

variable {s name params : String} {u : ServiceUri}

/-- The text `s` is `name`, the first colon in it, and `params`. -/
structure Cut (s name params : String) : Prop where
  eq : s = name ++ ":" ++ params
  first : ':' ∉ name.toList

theorem exists_cut_iff : (∃ name params, Cut s name params) ↔ ':' ∈ s.toList := by
  constructor
  · rintro ⟨name, params, rfl, -⟩
    simp
  · intro h
    obtain ⟨name, params, hs, hfirst⟩ := List.eq_append_cons_of_mem h
    refine ⟨String.ofList name, String.ofList params, ?_, by simpa using hfirst⟩
    rw [← String.toList_inj, hs]
    simp

theorem Cut.toList_eq (h : Cut s name params) : s.toList = name.toList ++ ':' :: params.toList := by
  simp [h.eq]

theorem forall_ne_colon {cs : List Char} (h : ':' ∉ cs) : ∀ c ∈ cs, decide (c ≠ ':') = true := by
  intro c hc
  apply decide_eq_true
  rintro rfl
  exact h hc

theorem Cut.dropWhile_eq (h : Cut s name params) :
    s.toList.dropWhile (· ≠ ':') = ':' :: params.toList := by
  rw [h.toList_eq, List.dropWhile_append_of_pos (forall_ne_colon h.first)]
  simp

theorem Cut.takeWhile_eq (h : Cut s name params) : s.toList.takeWhile (· ≠ ':') = name.toList := by
  rw [h.toList_eq, List.takeWhile_append_of_pos (forall_ne_colon h.first)]
  simp

theorem Cut.unique {name' params' : String} (h : Cut s name params) (h' : Cut s name' params') :
    name = name' ∧ params = params' := by
  constructor
  · exact String.toList_inj.1 (h.takeWhile_eq.symm.trans h'.takeWhile_eq)
  · exact String.toList_inj.1 (List.cons.inj (h.dropWhile_eq.symm.trans h'.dropWhile_eq)).2

theorem parse_of_notMem (h : ':' ∉ s.toList) : parse s = .error (.invalidUri s) := by
  have hdrop : s.toList.dropWhile (· ≠ ':') = [] := List.dropWhile_eq_nil_iff.2 (forall_ne_colon h)
  rw [parse, hdrop]

theorem parse_of_cut (h : Cut s name params) :
    parse s = if trimChars name.toList = [] then .error (.invalidUri s)
      else .ok ⟨Text.trim name, params⟩ := by
  rw [parse, h.dropWhile_eq, h.takeWhile_eq]
  simp [Text.trim]

/-- The URI is read off the text, whose first colon stands behind a name of more than blanks. -/
structure ReadOff (s name : String) (u : ServiceUri) : Prop where
  cut : Cut s name u.params
  trim : TrimsTo name.toList u.component.toList
  nonempty : u.component ≠ ""

theorem parse_cases (s : String) :
    (∃ u name, ReadOff s name u ∧ parse s = .ok u) ∨ parse s = .error (.invalidUri s) := by
  by_cases hcolon : ':' ∈ s.toList
  · obtain ⟨name, params, hcut⟩ := exists_cut_iff.2 hcolon
    by_cases hname : trimChars name.toList = []
    · exact .inr ((parse_of_cut hcut).trans (if_pos hname))
    · have hok := (parse_of_cut hcut).trans (if_neg hname)
      refine .inl ⟨⟨Text.trim name, params⟩, name, ⟨hcut, ?_, ?_⟩, hok⟩
      · rw [trim_toList]
        exact trimsTo_trimChars name.toList
      · rw [ne_eq, ← String.toList_inj, trim_toList]
        exact hname
  · exact .inr (parse_of_notMem hcolon)

theorem ReadOff.parse_eq (h : ReadOff s name u) : parse s = .ok u := by
  have hcomponent : Text.trim name = u.component := by
    rw [← String.toList_inj, trim_toList]
    exact trimsTo_iff.1 h.trim
  have hname : trimChars name.toList ≠ [] := by
    rw [trimsTo_iff.1 h.trim]
    intro hnil
    exact h.nonempty (String.toList_inj.1 hnil)
  rw [parse_of_cut h.cut, if_neg hname, hcomponent]

theorem parse_eq_ok_iff : parse s = .ok u ↔ ∃ name, ReadOff s name u := by
  constructor
  · intro h
    rcases parse_cases s with ⟨u', name, hread, hok⟩ | herror
    · obtain rfl := Except.ok.inj (hok.symm.trans h)
      exact ⟨name, hread⟩
    · cases herror.symm.trans h
  · rintro ⟨name, hread⟩
    exact hread.parse_eq

theorem parse_eq_error {e : BindError} (h : parse s = .error e) : e = .invalidUri s := by
  rcases parse_cases s with ⟨u, name, -, hok⟩ | herror
  · cases hok.symm.trans h
  · exact Except.error.inj (h.symm.trans herror)

/-- The name of a component has no colon. -/
theorem ReadOff.notMem_component (h : ReadOff s name u) : ':' ∉ u.component.toList := by
  intro hmem
  exact h.cut.first (h.trim.subset hmem)

/-- A URI is read off what is written of it. -/
theorem ReadOff.text (h : ReadOff s name u) : ReadOff u.text u.component u where
  cut := ⟨rfl, h.notMem_component⟩
  trim := h.trim.self
  nonempty := h.nonempty

theorem exists_parse_iff : (∃ u, parse s = .ok u) ↔
    ∃ name params, Cut s name params ∧ ∃ c ∈ name.toList, isBlank c = false := by
  constructor
  · rintro ⟨u, hu⟩
    obtain ⟨name, hread⟩ := parse_eq_ok_iff.1 hu
    refine ⟨name, u.params, hread.cut, hread.trim.ne_nil_iff.1 ?_⟩
    intro hnil
    exact hread.nonempty (String.toList_inj.1 hnil)
  · rintro ⟨name, params, hcut, hname⟩
    have hne : trimChars name.toList ≠ [] := (trimsTo_trimChars name.toList).ne_nil_iff.2 hname
    exact ⟨_, (parse_of_cut hcut).trans (if_neg hne)⟩

/-- **The grammar of service URIs.** A text reads as a service URI if and only if it has a colon with more
than blanks before the first one. Then the component is what stands before it, without the blanks at its
ends, and has no colon; the parameters are all that stands behind, unchanged; and what is written of the URI
reads as the URI again. Of any other text the error tells the text. -/
theorem parse_grammar (s : String) :
    ((∃ u, parse s = .ok u) ↔
      ∃ name params, Cut s name params ∧ ∃ c ∈ name.toList, isBlank c = false) ∧
    (∀ u, parse s = .ok u →
      (∀ name params, Cut s name params →
        TrimsTo name.toList u.component.toList ∧ u.params = params) ∧
      ':' ∉ u.component.toList ∧ u.component ≠ "" ∧ parse u.text = .ok u) ∧
    (∀ e, parse s = .error e → e = .invalidUri s) ∧
    ((∃ name params, Cut s name params) ↔ ':' ∈ s.toList) := by
  refine ⟨exists_parse_iff, ?_, fun e => parse_eq_error, exists_cut_iff⟩
  intro u hu
  obtain ⟨name, hread⟩ := parse_eq_ok_iff.1 hu
  refine ⟨?_, hread.notMem_component, hread.nonempty, hread.text.parse_eq⟩
  intro name' params' hcut'
  obtain ⟨rfl, rfl⟩ := hread.cut.unique hcut'
  exact ⟨hread.trim, rfl⟩

/-- Blanks of several kinds around the name, and colons and blanks in the parameters. -/
theorem parse_grammar_spaced :
    parse "\u2003queue\u00a0: lunch: events " = .ok ⟨"queue", " lunch: events "⟩ ∧
    parse "queue: lunch: events " = .ok ⟨"queue", " lunch: events "⟩ ∧
    (∀ u, parse "\u3000\t:x" ≠ .ok u) ∧
    ∀ u, parse "finder-1" ≠ .ok u := by
  obtain ⟨-, hread, -, -⟩ := parse_grammar "\u2003queue\u00a0: lunch: events "
  obtain ⟨hiff, -, -, -⟩ := parse_grammar "\u3000\t:x"
  obtain ⟨hiff', -, -, hcolon⟩ := parse_grammar "finder-1"
  have hok : parse "\u2003queue\u00a0: lunch: events " = .ok ⟨"queue", " lunch: events "⟩ := rfl
  have hcut : Cut "\u3000\t:x" "\u3000\t" "x" := ⟨by decide, by decide⟩
  refine ⟨hok, (hread _ hok).2.2.2, ?_, ?_⟩
  · intro u hu
    obtain ⟨name, params, hcut', c, hc, hblank⟩ := hiff.1 ⟨u, hu⟩
    obtain ⟨rfl, -⟩ := hcut.unique hcut'
    have hblanks : "\u3000\t".toList.all isBlank = true := rfl
    rw [List.all_eq_true.1 hblanks c hc] at hblank
    cases hblank
  · intro u hu
    obtain ⟨name, params, hcut, -⟩ := hiff'.1 ⟨u, hu⟩
    exact absurd (hcolon.1 ⟨name, params, hcut⟩) (by decide)

end ServiceUri

end ServiceBinding
