import Mathlib.Data.List.Perm.Basic
import Mathlib.Data.List.TakeWhile
import RuleDesk.Http.Multipart
import RuleDesk.Proofs.Text.Splitting

/-!
# Sections of a multipart body

Each part of a body is read from the octets between two boundaries, its section, and neither what
stands before the section nor what stands behind its boundary has a part in that. So the sections of
a body can change places, and the parts change places with them.
-/

set_option autoImplicit false

namespace RuleDesk.Http

open RuleDesk.Text

/-- The octets from which a part is read, whatever stands behind the boundary that ends them. -/
def IsSectionOf (marker : List UInt8) (part : Part) (octets : List UInt8) : Prop :=
  ∀ fuel rest, readParts marker (fuel + 1) (octets ++ (crlf ++ marker ++ rest)) =
    .cons part (readParts marker fuel rest)

variable {marker : List UInt8} {parts parts' : List Part}

/-! ## One part -/

theorem isSectionOf {blanks lines behind data inner rest : List UInt8} {header : PartHeader}
    (hblanks : ∀ b ∈ blanks, (b == 0x20 || b == 0x09) = true)
    (hlines : cutAround? (crlf ++ crlf) behind = some (lines, inner))
    (hheader : PartHeader.ofOctets? (lines ++ crlf ++ crlf) = some header)
    (hdata : cutAround? (crlf ++ marker) inner = some (data, rest)) :
    IsSectionOf marker ⟨header, data⟩ (blanks ++ crlf ++ (lines ++ (crlf ++ crlf) ++ data)) := by
  intro fuel other
  have hend : ¬ (blanks ++ crlf ++ (lines ++ (crlf ++ crlf) ++ data) ++
      (crlf ++ marker ++ other)).take 2 = [0x2D, 0x2D] := by
    cases blanks with
    | nil => simp [crlf]
    | cons b blanks =>
        intro htake
        simp only [List.cons_append, List.take_succ_cons, List.cons.injEq] at htake
        rw [htake.1] at hblanks
        exact absurd (hblanks _ List.mem_cons_self) (by decide)
  have hdrop : (blanks ++ crlf ++ (lines ++ (crlf ++ crlf) ++ data) ++
        (crlf ++ marker ++ other)).dropWhile (fun b => b == 0x20 || b == 0x09) =
      0x0D :: 0x0A :: (lines ++ (crlf ++ crlf) ++ (data ++ (crlf ++ marker) ++ other)) := by
    rw [List.append_assoc, List.append_assoc, List.dropWhile_append_of_pos hblanks]
    simp [crlf]
  -- both patterns are found where they were, since nothing before their ends has changed
  have hlines' := cutAround?_append hlines (data ++ (crlf ++ marker) ++ other)
  have hdata' := cutAround?_append hdata other
  rw [readParts, if_neg hend, hdrop]
  simp only [hlines', hheader, hdata']

/-- What the reader takes for a part stands in a section of its own. -/
theorem exists_section {octets behind lines inner data rest : List UInt8} {header : PartHeader}
    (hbehind : octets.dropWhile (fun b => b == 0x20 || b == 0x09) = 0x0D :: 0x0A :: behind)
    (hlines : cutAround? (crlf ++ crlf) behind = some (lines, inner))
    (hheader : PartHeader.ofOctets? (lines ++ crlf ++ crlf) = some header)
    (hdata : cutAround? (crlf ++ marker) inner = some (data, rest)) :
    ∃ own, octets = own ++ (crlf ++ marker ++ rest) ∧ IsSectionOf marker ⟨header, data⟩ own := by
  have hblanks : ∀ b ∈ octets.takeWhile (fun b => b == 0x20 || b == 0x09),
      (b == 0x20 || b == 0x09) = true :=
    fun _ => List.mem_takeWhile_imp
  have hoctets := octets.takeWhile_append_dropWhile (p := fun b => b == 0x20 || b == 0x09)
  rw [hbehind, eq_append_of_cutAround? hlines, eq_append_of_cutAround? hdata] at hoctets
  refine ⟨_, ?_, isSectionOf hblanks hlines hheader hdata⟩
  exact hoctets.symm.trans (by simp [crlf])

theorem Multipart.cons_eq_complete {part : Part} {m : Multipart}
    (h : m.cons part = ⟨parts, .complete⟩) :
    ∃ more, parts = part :: more ∧ m = ⟨more, .complete⟩ := by
  cases m
  cases h
  exact ⟨_, rfl, rfl⟩

/-- What stands behind a boundary is the end of the body or the section of its next part. -/
theorem readParts_cases {fuel : Nat} {octets : List UInt8}
    (h : readParts marker (fuel + 1) octets = ⟨parts, .complete⟩) :
    (parts = [] ∧ octets.take 2 = [0x2D, 0x2D]) ∨
      ∃ part more own rest, parts = part :: more ∧ octets = own ++ (crlf ++ marker ++ rest) ∧
        IsSectionOf marker part own ∧ readParts marker fuel rest = ⟨more, .complete⟩ := by
  rw [readParts] at h
  -- a body that breaks off is not complete, which leaves two ways through the reader
  split at h
  · next hend =>
      cases h
      exact .inl ⟨rfl, hend⟩
  · split at h
    · next behind hbehind =>
        split at h
        · cases h
        · next lines inner hlines =>
            split at h
            · cases h
            · next header hheader =>
                split at h
                · cases h
                · next data rest hdata =>
                    obtain ⟨more, hparts, hmore⟩ := Multipart.cons_eq_complete h
                    obtain ⟨own, hoctets, hown⟩ := exists_section hbehind hlines hheader hdata
                    exact .inr ⟨_, more, own, rest, hparts, hoctets, hown, hmore⟩
    · cases h

/-! ## All parts -/

/-- A complete body is a sequence of sections, one for each part, with boundaries behind them. -/
theorem exists_sections {fuel : Nat} {octets : List UInt8}
    (h : readParts marker fuel octets = ⟨parts, .complete⟩) :
    parts.length < fuel ∧ ∃ sections rest,
      List.Forall₂ (IsSectionOf marker) parts sections ∧ rest.take 2 = [0x2D, 0x2D] ∧
      octets = sections.flatMap (· ++ (crlf ++ marker)) ++ rest := by
  induction fuel generalizing parts octets with
  | zero => cases h
  | succ fuel ih =>
      rcases readParts_cases h with ⟨rfl, hend⟩ | ⟨part, more, own, rest, rfl, rfl, hown, hmore⟩
      · exact ⟨Nat.succ_pos fuel, [], octets, .nil, hend, rfl⟩
      · obtain ⟨hlength, sections, rest, hsections, hend, rfl⟩ := ih hmore
        refine ⟨Nat.succ_lt_succ hlength, own :: sections, rest, .cons hown hsections, hend, ?_⟩
        simp

/-- A sequence of sections is read as their parts. -/
theorem readParts_sections {fuel : Nat} {sections : List (List UInt8)} {rest : List UInt8}
    (hsections : List.Forall₂ (IsSectionOf marker) parts sections)
    (hend : rest.take 2 = [0x2D, 0x2D]) (hfuel : parts.length < fuel) :
    readParts marker fuel (sections.flatMap (· ++ (crlf ++ marker)) ++ rest) =
      ⟨parts, .complete⟩ := by
  induction hsections generalizing fuel with
  | nil =>
      obtain ⟨fuel, rfl⟩ := Nat.exists_eq_add_one_of_ne_zero (Nat.ne_zero_of_lt hfuel)
      rw [List.flatMap_nil, List.nil_append, readParts, if_pos hend]
      rfl
  | @cons part own parts sections hown _ ih =>
      obtain ⟨fuel, rfl⟩ := Nat.exists_eq_add_one_of_ne_zero (Nat.ne_zero_of_lt hfuel)
      have hmore := ih (Nat.lt_of_succ_lt_succ hfuel)
      rw [List.flatMap_cons, List.append_assoc, List.append_assoc, hown, hmore]
      rfl

/-- The parts of a body can be brought into any order by moving its octets. -/
theorem Multipart.exists_reordered {boundary : String} {octets : List UInt8}
    (h : Multipart.ofOctets boundary octets = ⟨parts, .complete⟩) (hperm : parts'.Perm parts) :
    ∃ octets' : List UInt8, octets'.Perm octets ∧
      Multipart.ofOctets boundary octets' = ⟨parts', .complete⟩ := by
  simp only [Multipart.ofOctets] at h ⊢
  generalize 0x2D :: 0x2D :: toOctets boundary.toList = marker at h ⊢
  split at h
  · next before behind hcut =>
      obtain ⟨hlength, sections, rest, hsections, hend, rfl⟩ := exists_sections h
      obtain ⟨sections', hsections', hmoved⟩ := List.perm_comp_forall₂ hperm hsections
      have hcut' := cutAround?_append hcut (sections'.flatMap (· ++ (crlf ++ marker)) ++ rest)
      have hoctets : (before ++ marker ++
          (sections'.flatMap (· ++ (crlf ++ marker)) ++ rest)).Perm octets := by
        rw [eq_append_of_cutAround? hcut]
        exact ((hmoved.flatMap_right _).append_right rest).append_left (before ++ marker)
      refine ⟨_, hoctets, ?_⟩
      rw [hcut']
      exact readParts_sections hsections' hend (by rwa [hperm.length_eq, hoctets.length_eq])
  · cases h

end RuleDesk.Http
