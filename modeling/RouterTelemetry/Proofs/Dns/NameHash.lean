import RouterTelemetry.Dns.NameHash
import RouterTelemetry.Proofs.Text.Lowercase
/-!
# Names with the same hash

A name is hashed in its normal form, which is reached by trimming and by taking the lowercase form, in any order and any
number of times. Main statements:

* `applyAll_eq` : what any sequence of the two steps leads to;
* `normalizeName_flipCase` : the case of letters of the basic alphabet is lost in the normal form;
* `hash_ignores_case_and_blanks` : which names have the same hash, whatever the salt.
-/

namespace RouterTelemetry.Dns

open Text

/-! ## Steps to the normal form -/

/-- A step to the normal form of a name. -/
inductive NormalStep where
  | trim
  | lowercase
deriving DecidableEq

namespace NormalStep

/-- What a step makes of a text. -/
def apply : NormalStep → List Char → List Char
  | trim => Text.trim
  | lowercase => Text.lowercase

/-- What steps make of a text, one after the other. -/
def applyAll (steps : List NormalStep) (s : List Char) : List Char :=
  steps.foldl (fun s p => p.apply s) s

theorem trim_trim (s : List Char) : Text.trim (Text.trim s) = Text.trim s :=
  trim_eq_self (head?_trim s) (getLast?_trim s)

/-- **The order of steps makes no difference, and neither does their number**: only which of the two are there. -/
theorem applyAll_eq (steps : List NormalStep) (s : List Char) :
    applyAll steps s =
      (if lowercase ∈ steps then Text.lowercase else id) ((if trim ∈ steps then Text.trim else id) s) := by
  induction steps generalizing s with
  | nil => rfl
  | cons p steps ih =>
    show applyAll steps (p.apply s) = _
    rw [ih]
    cases p with
    | trim =>
      have htrim : (if trim ∈ steps then Text.trim else id) (Text.trim s) = Text.trim s := by
        split
        · exact trim_trim s
        · rfl
      have hiff : lowercase ∈ trim :: steps ↔ lowercase ∈ steps := by simp
      rw [apply, htrim, if_pos (List.mem_cons_self ..)]
      simp only [hiff]
    | lowercase =>
      -- the lowercase form is moved behind the trimming, where it is taken anyway
      have hmove : (if trim ∈ steps then Text.trim else id) (Text.lowercase s) =
          Text.lowercase ((if trim ∈ steps then Text.trim else id) s) := by
        split
        · exact trim_lowercase s
        · rfl
      have honce : ∀ t : List Char, (if lowercase ∈ steps then Text.lowercase else id) (Text.lowercase t) =
          Text.lowercase t := by
        intro t
        split
        · exact lowercase_lowercase t
        · rfl
      have hiff : trim ∈ lowercase :: steps ↔ trim ∈ steps := by simp
      rw [apply, hmove, honce, if_pos (List.mem_cons_self ..)]
      simp only [hiff]

end NormalStep

open NormalStep (applyAll)

theorem normalizeName_eq_applyAll (name : String) : normalizeName name = applyAll [.trim, .lowercase] name.toList :=
  rfl

/-- Steps that were made already make no difference to the normal form. -/
theorem normalizeName_applyAll (steps : List NormalStep) (name : String) :
    normalizeName (String.ofList (applyAll steps name.toList)) = normalizeName name := by
  have happend : applyAll [.trim, .lowercase] (applyAll steps name.toList) =
      applyAll (steps ++ [.trim, .lowercase]) name.toList :=
    (List.foldl_append ..).symm
  rw [normalizeName_eq_applyAll, normalizeName_eq_applyAll, String.toList_ofList, happend, NormalStep.applyAll_eq,
    NormalStep.applyAll_eq]
  simp

/-- Neither do blanks around a name. -/
theorem normalizeName_between {lead trail : String} (hlead : ∀ c ∈ lead.toList, isBlank c = true)
    (htrail : ∀ c ∈ trail.toList, isBlank c = true) (name : String) :
    normalizeName (lead ++ name ++ trail) = normalizeName name := by
  unfold normalizeName
  rw [String.toList_append, String.toList_append, List.append_assoc, trim_append_blanks hlead htrail]

/-- The other case of a letter of the basic alphabet. Any other character is left as it is. -/
def flipCase (c : Char) : Char :=
  if c.isUpper then c.toLower else c.toUpper

theorem isLower_iff_toNat {c : Char} : c.isLower = true ↔ 0x61 ≤ c.toNat ∧ c.toNat ≤ 0x7A := by
  show (decide (c.val ≥ 0x61) && decide (c.val ≤ 0x7A)) = true ↔ _
  rw [Bool.and_eq_true, decide_eq_true_eq, decide_eq_true_eq]
  exact Iff.rfl

/-- A capital of the basic alphabet stands thirty-two code points before its small letter. -/
theorem toUpper_of_isLower {c : Char} (h : c.isLower = true) : c.toUpper.toNat + 32 = c.toNat := by
  have hbounds := isLower_iff_toNat.mp h
  have hdistance : ('A'.val - 'a'.val).toNat = 2 ^ 32 - 32 := by decide
  show Char.toNat (dite (0x61 ≤ c.toNat ∧ c.toNat ≤ 0x7A) _ _) + 32 = _
  rw [dif_pos hbounds]
  show (c.val + ('A'.val - 'a'.val)).toNat + 32 = c.toNat
  rw [UInt32.toNat_add, hdistance]
  show (c.toNat + (2 ^ 32 - 32)) % 2 ^ 32 + 32 = c.toNat
  omega

theorem toUpper_of_not_isLower {c : Char} (h : ¬ c.isLower = true) : c.toUpper = c := by
  rw [isLower_iff_toNat] at h
  exact dif_neg h

theorem sameLetter_flipCase (c : Char) : SameLetter c (flipCase c) := by
  unfold SameLetter flipCase
  split
  · next hupper => rw [toLower_of_not_isUpper (not_isUpper_toLower hupper)]
  · next hupper =>
    by_cases hlower : c.isLower
    · -- the small letter of its capital is the letter itself
      have hbounds := isLower_iff_toNat.mp hlower
      have hcode := toUpper_of_isLower hlower
      have hcapital : c.toUpper.isUpper = true := isUpper_iff_toNat.mpr (by omega)
      rw [toLower_of_not_isUpper hupper, ← Char.toNat_inj, toLower_of_isUpper hcapital, hcode]
    · rw [toUpper_of_not_isLower hlower]

/-- Whether a text comes from another one by flipping the case of some of its letters. -/
def Flipped (s t : List Char) : Prop :=
  List.Forall₂ (fun c d => d = c ∨ d = flipCase c) s t

/-- Neither does the case of letters. -/
theorem normalizeName_flipCase {name other : String} (h : Flipped name.toList other.toList) :
    normalizeName other = normalizeName name := by
  have hsame : List.Forall₂ SameLetter name.toList other.toList := by
    refine h.imp ?_
    rintro c d (rfl | rfl)
    · rfl
    · exact sameLetter_flipCase c
  exact (lowercase_eq_of_sameLetters (trim_of_sameLetters hsame)).symm

/-! ## Hashes -/

/-- The hash of a name is that of its normal form. -/
theorem nameHash_congr {name other : String} (h : normalizeName other = normalizeName name) (salt : String) :
    nameHash salt other = nameHash salt name := by
  unfold nameHash
  rw [h]

/-- **Hashes ignore case and blanks around.** With any salt, a name has the hash that it has between blanks, with the
case of some letters flipped, in lowercase, and after any steps to its normal form; and steps in any order, however
often each of them is made, lead to the normal form as soon as both were made. -/
theorem hash_ignores_case_and_blanks (salt name : String) :
    (∀ lead trail : String, (∀ c ∈ lead.toList, isBlank c = true) → (∀ c ∈ trail.toList, isBlank c = true) →
      nameHash salt (lead ++ name ++ trail) = nameHash salt name) ∧
    (∀ other : String, Flipped name.toList other.toList → nameHash salt other = nameHash salt name) ∧
    nameHash salt (String.ofList (lowercase name.toList)) = nameHash salt name ∧
    ∀ steps : List NormalStep,
      nameHash salt (String.ofList (applyAll steps name.toList)) = nameHash salt name ∧
        (.trim ∈ steps → .lowercase ∈ steps → applyAll steps name.toList = normalizeName name) := by
  refine ⟨fun lead trail hlead htrail => ?_, fun other hother => ?_, ?_, fun steps => ⟨?_, fun htrim hlower => ?_⟩⟩
  · exact nameHash_congr (normalizeName_between hlead htrail name) salt
  · exact nameHash_congr (normalizeName_flipCase hother) salt
  · exact nameHash_congr (normalizeName_applyAll [.lowercase] name) salt
  · exact nameHash_congr (normalizeName_applyAll steps name) salt
  · rw [NormalStep.applyAll_eq, if_pos hlower, if_pos htrim]
    rfl

/-- A name with a sigma at the end of a word, between blanks of two kinds and in another case. -/
theorem hash_of_a_street :
    (∀ c ∈ " \t".toList, isBlank c = true) ∧ (∀ c ∈ "\u3000".toList, isBlank c = true) ∧
      Flipped "ΟΔΟΣ Ab".toList "ΟΔΟΣ aB".toList ∧
      nameHash "salt" (" \t" ++ "ΟΔΟΣ Ab" ++ "\u3000") = nameHash "salt" "ΟΔΟΣ aB" ∧
      normalizeName "ΟΔΟΣ aB" = "οδος ab".toList ∧
      applyAll [.lowercase, .trim, .lowercase] "ΟΔΟΣ Ab".toList = normalizeName "ΟΔΟΣ Ab" := by
  have hlead : ∀ c ∈ " \t".toList, isBlank c = true := by simp [isBlank]
  have htrail : ∀ c ∈ "\u3000".toList, isBlank c = true := by simp [isBlank]
  have hflipped : Flipped "ΟΔΟΣ Ab".toList "ΟΔΟΣ aB".toList := by
    simp [Flipped, flipCase]
  obtain ⟨hbetween, hcase, -, hsteps⟩ := hash_ignores_case_and_blanks "salt" "ΟΔΟΣ Ab"
  refine ⟨hlead, htrail, hflipped, ?_, by decide +kernel, (hsteps _).2 (by decide) (by decide)⟩
  exact (hbetween _ _ hlead htrail).trans (hcase _ hflipped).symm

end RouterTelemetry.Dns
