/-
What the allow-lists take, said three ways. A kind has a pattern, a language put together
from classes of characters (`pattern`); it has a grammar, which says what a text of it looks
like (`Grammar`); and it has the test that is run. All three agree on every text
(`mem_pattern_iff`, `admits_iff`), whichever of several at signs or dots one would split
it at. So a value is taken, as its trimmed text, exactly when that is in the grammar
(`validate_takes_grammar`).
-/
import Mathlib.Computability.Language
import SignatureDesk.AllowList.Validate
import SignatureDesk.Proofs.AllowList.NormalForm
import SignatureDesk.Proofs.Text.Ascii
import SignatureDesk.Proofs.Text.Scan

namespace SignatureDesk.AllowListKind

open Computability Text

/-! ## Patterns -/

/-- What a character is when its case is left aside, as far as that is a character of ASCII. -/
def fold (c : Char) : Char :=
  if c = '\u017f' then 's' else if c = '\u212a' then 'k' else asciiLowerChar c

/-- The texts of one character of a class. -/
def one (p : Char → Prop) : Language Char := {s | ∃ c, p c ∧ s = [c]}

/-- The texts of one character that is of a class in one case or the other. -/
def anyCase (p : Char → Bool) : Language Char := one fun c => ∃ d, p d = true ∧ fold c = fold d

def atLeast (n : Nat) (l : Language Char) : Language Char := l ^ n * l∗

def atMost (n : Nat) (l : Language Char) : Language Char := {s | ∃ k, k ≤ n ∧ s ∈ l ^ k}

/-- Any character but the end of a line. -/
def inLine : Language Char := one (· ≠ '\n')

def letter : Language Char := anyCase isAsciiLower

def letterOrDigit : Language Char := anyCase fun c => isAsciiLower c || isAsciiDigit c

def nameCharacter : Language Char := anyCase fun c => isAsciiLower c || isAsciiDigit c || c == '-'

/-- The texts in which the pattern of a kind is found, whatever the case of letters: `^.+@.+\..+$` for addresses,
`[a-z0-9]+\.[a-z]{2,}$` for domains, which may stand behind anything, and `^[a-z0-9][a-z0-9-]{0,38}$` for names. -/
def pattern : AllowListKind → Language Char
  | .email => atLeast 1 inLine * one (· = '@') * atLeast 1 inLine * one (· = '.') * atLeast 1 inLine
  | .domain => ⊤ * (atLeast 1 letterOrDigit * one (· = '.') * atLeast 2 letter)
  | .githubUsername | .githubOrg => letterOrDigit * atMost 38 nameCharacter

/-! ## Grammars -/

/-- A letter of ASCII, or one of the two beyond it that fold to one. -/
def Letter (c : Char) : Prop :=
  'a' ≤ c ∧ c ≤ 'z' ∨ 'A' ≤ c ∧ c ≤ 'Z' ∨ c = '\u017f' ∨ c = '\u212a'

def LetterOrDigit (c : Char) : Prop := Letter c ∨ '0' ≤ c ∧ c ≤ '9'

/-- What the texts of a kind look like. -/
def Grammar : AllowListKind → List Char → Prop
  | .email, t => '\n' ∉ t ∧ ∃ a b c, a ≠ [] ∧ b ≠ [] ∧ c ≠ [] ∧ t = a ++ '@' :: (b ++ '.' :: c)
  | .domain, t => ∃ before c letters,
      LetterOrDigit c ∧ 2 ≤ letters.length ∧ (∀ d ∈ letters, Letter d) ∧ t = before ++ c :: '.' :: letters
  | .githubUsername, t | .githubOrg, t =>
      1 ≤ t.length ∧ t.length ≤ 39 ∧ (∀ c ∈ t.head?, LetterOrDigit c) ∧ ∀ d ∈ t.tail, LetterOrDigit d ∨ d = '-'

/-! ## Characters -/

variable {c d : Char}

theorem isLetter_iff : isLetter c = true ↔ Letter c := by
  simp only [isLetter, isAsciiLetter, isAsciiUpper, isAsciiLower, Letter, Bool.or_eq_true, Bool.and_eq_true,
    decide_eq_true_eq]
  tauto

theorem isLetterOrDigit_iff : isLetterOrDigit c = true ↔ LetterOrDigit c := by
  rw [isLetterOrDigit, LetterOrDigit, Bool.or_eq_true, isLetter_iff, isAsciiDigit, Bool.and_eq_true,
    decide_eq_true_eq, decide_eq_true_eq]

theorem isAscii_of_le (h : c ≤ d) (hd : isAscii d = true) : isAscii c = true :=
  decide_eq_true (Nat.lt_of_le_of_lt h (of_decide_eq_true hd))

/-- Letters fold to the small ones of ASCII. -/
theorem Letter.isAsciiLower_fold (h : Letter c) : isAsciiLower (fold c) = true := by
  have folds : ∀ c, isAscii c = true → isAsciiLetter c = true → isAsciiLower (fold c) = true :=
    fun c hc => forall_ascii (p := fun c => isAsciiLetter c = true → isAsciiLower (fold c) = true)
      (by decide) hc
  rcases h with ⟨hlow, hhigh⟩ | ⟨hlow, hhigh⟩ | rfl | rfl
  · exact folds c (isAscii_of_le hhigh (by decide)) (by simp [isAsciiLetter, isAsciiLower, hlow, hhigh])
  · exact folds c (isAscii_of_le hhigh (by decide)) (by simp [isAsciiLetter, isAsciiUpper, hlow, hhigh])
  · decide
  · decide

/-- What folds to a character of ASCII is that character, or a letter. -/
theorem eq_or_letter_of_fold (h : fold c = d) : c = d ∨ Letter c := by
  rw [fold] at h
  split at h
  next hc => exact .inr (.inr (.inr (.inl hc)))
  split at h
  next hc => exact .inr (.inr (.inr (.inr hc)))
  by_cases hc : isAsciiUpper c = true
  · rw [isAsciiUpper, Bool.and_eq_true, decide_eq_true_eq, decide_eq_true_eq] at hc
    exact .inr (.inr (.inl hc))
  · rw [asciiLowerChar_of_not_upper hc] at h
    exact .inl h

/-- Small letters, digits and hyphens are what they fold to. -/
theorem fold_eq_self (h : (isAsciiLower d || isAsciiDigit d || d == '-') = true) : fold d = d := by
  have hascii : isAscii d = true := by
    simp only [isAsciiLower, isAsciiDigit, Bool.or_eq_true, Bool.and_eq_true, decide_eq_true_eq, beq_iff_eq] at h
    rcases h with (⟨-, h⟩ | ⟨-, h⟩) | rfl
    · exact isAscii_of_le h (by decide)
    · exact isAscii_of_le h (by decide)
    · decide
  exact forall_ascii (p := fun d => (isAsciiLower d || isAsciiDigit d || d == '-') = true → fold d = d) (by decide)
    hascii h

/-- A class of these that has the small letters takes, with case left aside, the other letters as well. -/
theorem anyCase_eq {p : Char → Bool} (hletters : ∀ d, isAsciiLower d = true → p d = true)
    (hp : ∀ d, p d = true → (isAsciiLower d || isAsciiDigit d || d == '-') = true) :
    anyCase p = one fun c => Letter c ∨ p c = true := by
  rw [anyCase]
  congr 1
  funext c
  refine propext ⟨?_, ?_⟩
  · rintro ⟨d, hd, hfold⟩
    rw [fold_eq_self (hp d hd)] at hfold
    rcases eq_or_letter_of_fold hfold with rfl | hc
    · exact .inr hd
    · exact .inl hc
  · rintro (hc | hc)
    · exact ⟨fold c, hletters _ hc.isAsciiLower_fold, (fold_eq_self (hp _ (hletters _ hc.isAsciiLower_fold))).symm⟩
    · exact ⟨c, hc, rfl⟩

theorem letter_eq : letter = one Letter := by
  rw [letter, anyCase_eq (fun _ h => h) (by simp +contextual)]
  congr 1
  funext c
  simp only [isAsciiLower, Letter, Bool.and_eq_true, decide_eq_true_eq]
  refine propext ?_
  tauto

theorem letterOrDigit_eq : letterOrDigit = one LetterOrDigit := by
  rw [letterOrDigit, anyCase_eq (by simp +contextual) (by simp +contextual)]
  congr 1
  funext c
  simp only [isAsciiLower, isAsciiDigit, LetterOrDigit, Letter, Bool.or_eq_true, Bool.and_eq_true, decide_eq_true_eq]
  refine propext ?_
  tauto

theorem nameCharacter_eq : nameCharacter = one fun c => LetterOrDigit c ∨ c = '-' := by
  rw [nameCharacter, anyCase_eq (by simp +contextual) (fun _ h => h)]
  congr 1
  funext c
  simp only [isAsciiLower, isAsciiDigit, LetterOrDigit, Letter, Bool.or_eq_true, Bool.and_eq_true, decide_eq_true_eq,
    beq_iff_eq]
  refine propext ?_
  tauto

/-! ## Repetitions -/

variable {p : Char → Prop} {s t : List Char} {n : Nat}

theorem mem_one : s ∈ one p ↔ ∃ c, p c ∧ s = [c] := Iff.rfl

theorem mem_one_pow : s ∈ one p ^ n ↔ s.length = n ∧ ∀ c ∈ s, p c := by
  induction n generalizing s with
  | zero => simp +contextual [Language.mem_one]
  | succ n ih =>
    simp only [pow_succ', Language.mem_mul, mem_one, ih]
    constructor
    · rintro ⟨_, ⟨c, hc, rfl⟩, rest, ⟨rfl, hrest⟩, rfl⟩
      simpa using ⟨hc, hrest⟩
    · rintro ⟨hlength, hall⟩
      obtain ⟨c, rest, rfl⟩ := List.exists_cons_of_length_eq_add_one hlength
      obtain ⟨hc, hrest⟩ := List.forall_mem_cons.1 hall
      exact ⟨[c], ⟨c, hc, rfl⟩, rest, ⟨Nat.succ.inj hlength, hrest⟩, rfl⟩

theorem mem_atLeast : s ∈ atLeast n (one p) ↔ n ≤ s.length ∧ ∀ c ∈ s, p c := by
  simp only [atLeast, Language.mem_mul, Language.kstar_eq_iSup_pow, Language.mem_iSup, mem_one_pow]
  constructor
  · rintro ⟨first, ⟨rfl, hfirst⟩, rest, ⟨_, -, hrest⟩, rfl⟩
    exact ⟨by simp, List.forall_mem_append.2 ⟨hfirst, hrest⟩⟩
  · rintro ⟨hlength, h⟩
    exact ⟨s.take n, ⟨List.length_take_of_le hlength, fun c hc => h c (List.mem_of_mem_take hc)⟩, s.drop n,
      ⟨_, rfl, fun c hc => h c (List.mem_of_mem_drop hc)⟩, List.take_append_drop n s⟩

theorem mem_atMost : s ∈ atMost n (one p) ↔ s.length ≤ n ∧ ∀ c ∈ s, p c := by
  constructor
  · rintro ⟨k, hk, h⟩
    obtain ⟨rfl, hall⟩ := mem_one_pow.1 h
    exact ⟨hk, hall⟩
  · rintro ⟨hlength, h⟩
    exact ⟨s.length, hlength, mem_one_pow.2 ⟨rfl, h⟩⟩

/-! ## The patterns and the grammars -/

theorem mem_email_iff : t ∈ pattern .email ↔ Grammar .email t := by
  simp only [pattern, inLine, Grammar, Language.mem_mul, mem_atLeast, mem_one]
  constructor
  · rintro ⟨_, ⟨_, ⟨_, ⟨a, ⟨ha, hla⟩, _, ⟨_, rfl, rfl⟩, rfl⟩, b, ⟨hb, hlb⟩, rfl⟩, _, ⟨_, rfl, rfl⟩, rfl⟩,
      c, ⟨hc, hlc⟩, rfl⟩
    refine ⟨fun hmem => ?_, a, b, c, List.ne_nil_of_length_pos ha, List.ne_nil_of_length_pos hb,
      List.ne_nil_of_length_pos hc, by simp⟩
    simp only [List.mem_append, List.mem_singleton] at hmem
    rcases hmem with ((((h | h) | h) | h) | h)
    · exact hla _ h rfl
    · exact absurd h (by decide)
    · exact hlb _ h rfl
    · exact absurd h (by decide)
    · exact hlc _ h rfl
  · rintro ⟨hline, a, b, c, ha, hb, hc, rfl⟩
    have within : ∀ d ∈ a ++ '@' :: (b ++ '.' :: c), d ≠ '\n' := fun d hd heq => hline (heq ▸ hd)
    refine ⟨_, ⟨_, ⟨_, ⟨a, ⟨List.length_pos_of_ne_nil ha, fun d hd => within d (by simp [hd])⟩, _, ⟨_, rfl, rfl⟩, rfl⟩,
      b, ⟨List.length_pos_of_ne_nil hb, fun d hd => within d (by simp [hd])⟩, rfl⟩, _, ⟨_, rfl, rfl⟩, rfl⟩,
      c, ⟨List.length_pos_of_ne_nil hc, fun d hd => within d (by simp [hd])⟩, by simp⟩

theorem mem_domain_iff : t ∈ pattern .domain ↔ Grammar .domain t := by
  simp only [pattern, Grammar, letterOrDigit_eq, letter_eq, Language.mem_mul, mem_atLeast, mem_one]
  constructor
  · rintro ⟨before, -, _, ⟨_, ⟨label, ⟨hlabel, hall⟩, _, ⟨_, rfl, rfl⟩, rfl⟩, letters, ⟨htwo, hletters⟩, rfl⟩, rfl⟩
    -- Of the letters and digits in front of the dot the last one is enough.
    obtain ⟨init, c, rfl⟩ := (List.eq_nil_or_concat' label).resolve_left (List.ne_nil_of_length_pos hlabel)
    exact ⟨before ++ init, c, letters, hall c (by simp), htwo, hletters, by simp⟩
  · rintro ⟨before, c, letters, hc, htwo, hletters, rfl⟩
    exact ⟨before, trivial, _, ⟨_, ⟨[c], ⟨by simp, by simpa using hc⟩, _, ⟨_, rfl, rfl⟩, rfl⟩, letters,
      ⟨htwo, hletters⟩, rfl⟩, by simp⟩

theorem mem_githubName_iff : t ∈ letterOrDigit * atMost 38 nameCharacter ↔ Grammar .githubUsername t := by
  simp only [Grammar, letterOrDigit_eq, nameCharacter_eq, Language.mem_mul, mem_atMost, mem_one]
  constructor
  · rintro ⟨_, ⟨c, hc, rfl⟩, rest, ⟨hlength, hrest⟩, rfl⟩
    exact ⟨by simp, Nat.succ_le_succ hlength, by simpa using hc, by simpa using hrest⟩
  · rintro ⟨hpos, hlength, hfirst, hrest⟩
    obtain ⟨c, rest, rfl⟩ := List.exists_cons_of_length_pos hpos
    exact ⟨[c], ⟨c, hfirst c rfl, rfl⟩, rest, ⟨Nat.le_of_succ_le_succ hlength, hrest⟩, rfl⟩

/-- A pattern is found in a text exactly when the text is in the grammar. -/
theorem mem_pattern_iff (kind : AllowListKind) : t ∈ kind.pattern ↔ kind.Grammar t := by
  cases kind with
  | email => exact mem_email_iff
  | domain => exact mem_domain_iff
  | githubUsername => exact mem_githubName_iff
  | githubOrg => exact mem_githubName_iff

/-! ## The test that is run -/

theorem contains_inside_iff {s : List Char} :
    (s.drop 1).dropLast.contains '.' = true ↔ ∃ b c, b ≠ [] ∧ c ≠ [] ∧ s = b ++ '.' :: c := by
  rw [List.contains_iff_mem]
  constructor
  · intro h
    obtain ⟨inner, behind, hsplit⟩ := List.append_of_mem h
    have hne : s.drop 1 ≠ [] := by
      intro hnil
      rw [hnil] at h
      cases h
    cases s with
    | nil => exact absurd rfl hne
    | cons first rest =>
      refine ⟨first :: inner, behind ++ [rest.getLast hne], List.cons_ne_nil _ _, by simp, ?_⟩
      have hrest := List.dropLast_append_getLast hne
      rw [hsplit] at hrest
      simpa using hrest.symm
  · rintro ⟨b, c, hb, hc, rfl⟩
    obtain ⟨first, inner, rfl⟩ := List.exists_cons_of_ne_nil hb
    rw [List.cons_append, List.drop_one, List.tail_cons, List.dropLast_append_cons, List.dropLast_cons_of_ne_nil hc]
    simp

theorem isEmail_eq_true_iff : isEmail t = true ↔ '\n' ∉ t ∧
    ∃ d rest, (t.drop 1).dropWhile (· ≠ '@') = d :: rest ∧ (rest.drop 1).dropLast.contains '.' = true := by
  rw [isEmail, Bool.and_eq_true]
  refine and_congr (by simp) ?_
  cases (t.drop 1).dropWhile (· ≠ '@') <;> simp

/-- The first at sign that has something before it is as good as any other. -/
theorem isEmail_iff : isEmail t = true ↔ Grammar .email t := by
  rw [isEmail_eq_true_iff, Grammar]
  simp only [contains_inside_iff]
  refine and_congr_right fun _ => ⟨?_, ?_⟩
  · rintro ⟨d, _, hbehind, b, c, hb, hc, rfl⟩
    obtain rfl : d = '@' := by simpa using of_dropWhile_eq_cons hbehind
    have hrest := List.takeWhile_append_dropWhile (p := (· ≠ '@')) (l := t.drop 1)
    rw [hbehind] at hrest
    cases t with
    | nil => simp at hrest
    | cons x t => exact ⟨x :: (t.takeWhile (· ≠ '@')), b, c, List.cons_ne_nil _ _, hb, hc, by simpa using hrest.symm⟩
  · rintro ⟨a, b, c, ha, hb, hc, rfl⟩
    obtain ⟨x, a, rfl⟩ := List.exists_cons_of_ne_nil ha
    have hbehind : ((x :: a ++ '@' :: (b ++ '.' :: c)).drop 1).dropWhile (· ≠ '@') =
        a.dropWhile (· ≠ '@') ++ '@' :: (b ++ '.' :: c) := dropWhile_append_stop (by decide) a _
    rw [hbehind]
    cases a.dropWhile (· ≠ '@') with
    | nil => exact ⟨'@', _, rfl, b, c, hb, hc, rfl⟩
    | cons d u => exact ⟨d, _, rfl, u ++ '@' :: b, c, by simp, hc, by simp⟩

theorem isDomain_eq_true_iff : isDomain t = true ↔ 2 ≤ (t.reverse.takeWhile isLetter).length ∧
    ∃ c rest, t.reverse.dropWhile isLetter = '.' :: c :: rest ∧ isLetterOrDigit c = true := by
  rw [isDomain, Bool.and_eq_true, decide_eq_true_eq]
  refine and_congr_right fun _ => ?_
  split
  next c rest h => simp [h]
  next h =>
    constructor
    · intro hfalse
      cases hfalse
    · rintro ⟨c, rest, heq, -⟩
      exact absurd heq (h c rest)

theorem isDomain_iff : isDomain t = true ↔ Grammar .domain t := by
  rw [isDomain_eq_true_iff, Grammar]
  constructor
  · rintro ⟨htwo, c, rest, hbehind, hc⟩
    have hall := List.takeWhile_append_dropWhile (p := isLetter) (l := t.reverse)
    rw [hbehind, ← List.reverse_inj, List.reverse_reverse] at hall
    refine ⟨rest.reverse, c, (t.reverse.takeWhile isLetter).reverse, isLetterOrDigit_iff.1 hc, by simpa using htwo, ?_,
      by simpa using hall.symm⟩
    intro d hd
    exact isLetter_iff.1 (List.mem_takeWhile_imp (List.mem_reverse.1 hd))
  · rintro ⟨before, c, letters, hc, htwo, hletters, rfl⟩
    -- A dot is no letter, so read from the end the letters are those behind the dot.
    have hreverse : (before ++ c :: '.' :: letters).reverse = letters.reverse ++ '.' :: c :: before.reverse := by simp
    have hrun : ∀ d ∈ letters.reverse, isLetter d = true := fun d hd =>
      isLetter_iff.2 (hletters d (List.mem_reverse.1 hd))
    have hdot : ∀ d ∈ ('.' :: c :: before.reverse).head?, isLetter d = false := by
      rintro d ⟨⟩
      decide
    rw [hreverse, takeWhile_run hrun hdot, dropWhile_run hrun hdot, List.length_reverse]
    exact ⟨htwo, c, _, rfl, isLetterOrDigit_iff.2 hc⟩

theorem isGithubName_iff : isGithubName t = true ↔ Grammar .githubUsername t := by
  simp only [Grammar]
  cases t with
  | nil => simp [isGithubName]
  | cons c rest =>
    have hlength : rest.length ≤ 38 ↔ (c :: rest).length ≤ 39 := Nat.succ_le_succ_iff.symm
    simp only [isGithubName, ← hlength, Bool.and_eq_true, decide_eq_true_eq, isLetterOrDigit_iff, List.all_eq_true,
      Bool.or_eq_true, List.head?_cons, Option.mem_some, forall_eq', List.tail_cons]
    constructor
    · rintro ⟨⟨hfirst, hshort⟩, hrest⟩
      exact ⟨Nat.succ_pos _, hshort, hfirst, hrest⟩
    · rintro ⟨-, hshort, hfirst, hrest⟩
      exact ⟨⟨hfirst, hshort⟩, hrest⟩

/-- The test of a kind passes exactly the texts of its grammar. -/
theorem admits_iff (kind : AllowListKind) : kind.admits t = true ↔ kind.Grammar t := by
  cases kind with
  | email => exact isEmail_iff
  | domain => exact isDomain_iff
  | githubUsername => exact isGithubName_iff
  | githubOrg => exact isGithubName_iff

/-! ## Validation -/

variable {kind : AllowListKind} {value entry : String} {f : Failure}

theorem validate_ok_iff : kind.validate value = .ok entry ↔ entry = trim value ∧ kind.Grammar (trim value).toList := by
  rw [validate, ← admits_iff]
  split
  next h => exact ⟨fun hok => ⟨(Except.ok.inj hok).symm, h⟩, fun ⟨heq, _⟩ => congrArg Except.ok heq.symm⟩
  next h => exact ⟨nofun, fun ⟨_, hadmits⟩ => absurd hadmits h⟩

theorem validate_error_iff :
    kind.validate value = .error f ↔ ¬kind.Grammar (trim value).toList ∧ f = .invalidEntry kind.name (trim value) := by
  rw [validate, ← admits_iff]
  split
  next h => exact ⟨nofun, fun ⟨hrefused, _⟩ => absurd h hrefused⟩
  next h => exact ⟨fun herr => ⟨h, (Except.error.inj herr).symm⟩, fun ⟨_, heq⟩ => congrArg Except.error heq.symm⟩

/-- **What an allow-list takes.** For every kind and every value: the value is taken exactly when its trimmed text is in
the grammar of the kind, which is when the pattern of the kind is found in it. The entry taken is the trimmed text,
which is taken again as it is. Any other value is refused, naming the kind and the trimmed text. -/
theorem validate_takes_grammar (kind : AllowListKind) (value : String) :
    let entry := trim value
    (∀ e, kind.validate value = .ok e ↔ e = entry ∧ kind.Grammar entry.toList) ∧
    (kind.Grammar entry.toList ↔ entry.toList ∈ kind.pattern) ∧
    (∀ e, kind.validate value = .ok e → kind.validate e = .ok e) ∧
    ∀ f, kind.validate value = .error f ↔ ¬kind.Grammar entry.toList ∧
      f = .validation ("Invalid " ++ kind.name ++ " allow-list entry: '" ++ entry ++ "'") := by
  refine ⟨fun e => validate_ok_iff, (mem_pattern_iff kind).symm, ?_, fun f => validate_error_iff⟩
  intro e h
  obtain ⟨rfl, hgrammar⟩ := validate_ok_iff.1 h
  rw [validate_ok_iff, trim_trim]
  exact ⟨rfl, hgrammar⟩

end SignatureDesk.AllowListKind

namespace SignatureDesk.Sample

/-- An at sign in front does not count, nor does a dot at the end, and white space is cut off first. -/
theorem oddAddress_taken : AllowListKind.email.validate " @jane@@acme.co. " = .ok "@jane@@acme.co." ∧
    AllowListKind.email.validate "@jane@@acme.co." = .ok "@jane@@acme.co." := by
  have taken : AllowListKind.email.validate " @jane@@acme.co. " = .ok "@jane@@acme.co." := by decide
  obtain ⟨-, -, again, -⟩ := AllowListKind.validate_takes_grammar .email " @jane@@acme.co. "
  exact ⟨taken, again _ taken⟩

end SignatureDesk.Sample
