/-
Any text below a base. The host of an address of the web stands in the base, and what follows
can only add to the path. So it mostly is with the addresses of other schemes; but a base of a scheme
and one slash is made the mark of a host by the slash that follows, and what stands behind is read
as one (`parse_below`). A path that a query was put behind begins plainly past the slashes in
front of it (`opensPlainly_of_withQuery`).
-/
import SignatureDesk.Proofs.Url.Parts

namespace SignatureDesk.Url

open Text

/-! ## Reading goes on -/

theorem readWeb_below {scheme : String} {z : List Char} {u : Url} (h : readWeb scheme (z ++ ['/']) = .ok u)
    (p : List Char) : ∃ u', readWeb scheme (z ++ '/' :: p) = .ok u' := by
  have hslash : (!endsAuthority '/') = false := by decide
  rw [readWeb, takeWhile_append_stop hslash] at h ⊢
  simp only at h ⊢
  split at h
  · cases h
  next hhost =>
    rw [if_neg hhost]
    obtain ⟨host, hparse, h⟩ := except_bind_ok_iff.1 h
    obtain ⟨port, hport, -⟩ := except_bind_ok_iff.1 h
    simp only [hparse, hport, except_ok_bind]
    exact ⟨_, rfl⟩

theorem checkForeign_below {y : List Char} (h : checkForeign (y ++ ['/']) = .ok ()) (p : List Char) :
    checkForeign (y ++ '/' :: p) = .ok () := by
  have hends : ∀ x q : List Char, (x ++ '/' :: q).isEmpty = false := by simp
  rw [checkForeign, takeWhile_append_stop (by decide), dropWhile_append_stop (by decide), hends] at h ⊢
  exact h

/-- The text can stand where a host is looked for. -/
structure OpensHost (p : List Char) : Prop where
  foreign : checkForeign p = .ok ()
  file : checkFile ('/' :: '/' :: p) = .ok ()

theorem opensHost_append {w : List Char} (h : OpensHost (w ++ ['/'])) (p : List Char) :
    OpensHost (w ++ '/' :: p) where
  foreign := checkForeign_below h.foreign p
  file := by
    have hfile := h.file
    simp only [checkFile] at hfile ⊢
    rw [takeWhile_append_stop (by decide)] at hfile ⊢
    exact hfile

section

variable {y p : List Char} (slashless : ∀ c, p.head? = some c → isSlash c = false)
  (opens : ∀ c, y = [c] → isSlash c = true → OpensHost p)

include slashless opens

theorem checkFile_below (h : checkFile (y ++ ['/']) = .ok ()) : checkFile (y ++ '/' :: p) = .ok () := by
  cases y with
  | nil =>
    cases p with
    | nil => rfl
    | cons c p => simp [checkFile, slashless c rfl]
  | cons c y =>
    cases y with
    | nil =>
      cases hc : isSlash c with
      | true =>
        have hfile := (opens c rfl hc).file
        have hslash : isSlash '/' = true := by decide
        simp only [checkFile, hslash, hc, List.singleton_append, Bool.and_self] at hfile ⊢
        exact hfile
      | false => simp [checkFile, hc]
    | cons d z =>
      simp only [List.cons_append, checkFile] at h ⊢
      rw [takeWhile_append_stop (by decide)] at h ⊢
      exact h

/-- Two slashes come from the base, or the second is the one behind it; then a host is looked for. -/
theorem checkForeign_behind {rest : List Char} (hrest : y ++ '/' :: p = '/' :: '/' :: rest)
    (h : ∀ z, y = '/' :: '/' :: z → checkForeign (z ++ ['/']) = .ok ()) : checkForeign rest = .ok () := by
  cases y with
  | nil =>
    obtain ⟨-, hp⟩ := List.cons.inj hrest
    have hslash := slashless '/' (congrArg List.head? hp)
    cases hslash
  | cons c y =>
    cases y with
    | nil =>
      obtain ⟨rfl, rfl⟩ : c = '/' ∧ p = rest := by simpa using hrest
      exact (opens '/' rfl rfl).foreign
    | cons d z =>
      obtain ⟨rfl, rfl, rfl⟩ : c = '/' ∧ d = '/' ∧ z ++ '/' :: p = rest := by simpa using hrest
      exact checkForeign_below (h z rfl) p

end

/-! ## Addresses below a base -/

/-- The base is a scheme that is not of the web, and a slash: the mark of a host, once another slash follows. -/
def IsHostless (s : List Char) : Prop :=
  ∃ scheme c, takeScheme (leading s ++ ['/']) = some (scheme, [c, '/']) ∧ defaultPort? scheme = none ∧
    isSlash c = true

/-- Below a base that has an address so has every text that begins with no slash, and, where that is
a host's place, with what can be one. -/
theorem parse_below {s p : List Char} {a : Address} (h : parse (String.ofList (s ++ ['/'])) = .ok a)
    (slashless : ∀ c, (trailing p).head? = some c → isSlash c = false)
    (opens : IsHostless s → OpensHost (trailing p)) : ∃ a', parse (String.ofList (s ++ '/' :: p)) = .ok a' := by
  cases a with
  | web u =>
    obtain ⟨scheme, z, hu, hparse⟩ := parse_slash h
    obtain ⟨u', hread⟩ := readWeb_below hu (trailing p)
    exact ⟨.web u', by rw [hparse, hread]; rfl⟩
  | foreign =>
    rw [parse, String.toList_ofList, cleaned_slash, show trailing [] = [] from rfl] at h
    rw [parse, String.toList_ofList, cleaned_slash]
    cases hs : takeScheme (leading s ++ ['/']) with
    | none =>
      rw [hs] at h
      cases h
    | some r =>
      obtain ⟨scheme, rest⟩ := r
      rw [hs] at h
      obtain ⟨y, rfl, hy⟩ := takeScheme_append hs
      rw [hy]
      simp only at h ⊢
      have hostless : defaultPort? scheme = none → ∀ c, y = [c] → isSlash c = true → OpensHost (trailing p) := by
        rintro hport c rfl hc
        exact opens ⟨scheme, c, hs, hport, hc⟩
      split at h
      next hfile =>
        subst hfile
        obtain ⟨_, hcheck, -⟩ := except_map_ok_iff.1 h
        rw [if_pos rfl, checkFile_below slashless (hostless rfl) hcheck]
        exact ⟨.foreign, rfl⟩
      next hfile =>
        rw [if_neg hfile]
        split at h
        · obtain ⟨_, -, h⟩ := except_map_ok_iff.1 h
          cases h
        next hport =>
          rw [if_neg hport]
          split
          next rest hrest =>
            rw [checkForeign_behind slashless (hostless (by simpa using hport)) hrest ?_]
            · exact ⟨.foreign, rfl⟩
            · rintro z rfl
              obtain ⟨_, hcheck, -⟩ := except_map_ok_iff.1 h
              exact hcheck
          next => exact ⟨.foreign, rfl⟩

/-! ## Paths with a query -/

/-- The text begins with a visible character that is no slash. -/
def OpensPlainly (p : List Char) : Prop := ∃ c rest, p = c :: rest ∧ 32 < c.toNat ∧ isSlash c = false

theorem opensPlainly_append {w : List Char} (hne : w ≠ []) (h : ∀ c ∈ w, 32 < c.toNat ∧ isSlash c = false)
    (p : List Char) : OpensPlainly (w ++ p) := by
  cases w with
  | nil => exact absurd rfl hne
  | cons c w => exact ⟨c, w ++ p, rfl, h c List.mem_cons_self⟩

theorem trailing_cons {c : Char} (h : 32 < c.toNat) (p : List Char) : trailing (c :: p) = c :: trailing p := by
  have hedge : decide (c.toNat ≤ 32) = false := decide_eq_false (by omega)
  have hne : ∀ d : Char, d.toNat ≤ 32 → c ≠ d := by
    rintro d hd rfl
    omega
  have hdrop := dropRightWhile_append_stop (q := fun c => decide (c.toNat ≤ 32)) hedge [] p
  rw [List.nil_append, List.nil_append] at hdrop
  rw [trailing, hdrop]
  simp [trailing, hne '\t' (by decide), hne '\n' (by decide), hne '\r' (by decide)]

theorem trailing_append {w : List Char} (shown : ∀ c ∈ w, 32 < c.toNat) (p : List Char) :
    trailing (w ++ p) = w ++ trailing p := by
  induction w with
  | nil => rfl
  | cons c w ih =>
    have hrest := ih fun d hd => shown d (List.mem_cons_of_mem c hd)
    rw [List.cons_append, trailing_cons (shown c List.mem_cons_self), hrest, List.cons_append]

theorem OpensPlainly.trailing {p : List Char} (h : OpensPlainly p) :
    ∀ c, (trailing p).head? = some c → isSlash c = false := by
  obtain ⟨d, rest, rfl, hshown, hslash⟩ := h
  intro c hc
  rw [trailing_cons hshown] at hc
  cases hc
  exact hslash

theorem mem_of_mem_up {passed : List String} {s : String} (h : s ∈ up passed) : s ∈ passed := by
  cases passed with
  | nil => cases h
  | cons first rest =>
    rw [up] at h
    split at h
    · exact h
    · exact List.mem_cons_of_mem _ h

/-- What is left of a path is of it, but for an empty segment at its end. -/
theorem mem_resolve {passed parts : List String} {s : String} (h : s ∈ resolve passed parts) :
    s = "" ∨ s ∈ passed ∨ s ∈ parts := by
  induction parts generalizing passed with
  | nil => exact .inr (.inl (List.mem_reverse.1 h))
  | cons part rest ih =>
    cases rest with
    | nil =>
      simp only [resolve] at h
      split at h
      · simp only [List.mem_append, List.mem_reverse, List.mem_singleton] at h
        exact h.elim (fun h => .inr (.inl (mem_of_mem_up h))) .inl
      · split at h <;> simp only [List.mem_append, List.mem_reverse, List.mem_singleton] at h
        · exact h.elim (fun h => .inr (.inl h)) .inl
        · exact h.elim (fun h => .inr (.inl h)) fun h => .inr (.inr (by simp [h]))
    | cons next rest =>
      rw [resolve] at h
      · split at h
        · exact (ih h).imp_right (Or.imp mem_of_mem_up (List.mem_cons_of_mem _))
        · split at h
          · exact (ih h).imp_right (Or.imp_right (List.mem_cons_of_mem _))
          · rcases ih h with h | h | h
            · exact .inl h
            · rcases List.mem_cons.1 h with rfl | h
              · exact .inr (.inr List.mem_cons_self)
              · exact .inr (.inl h)
            · exact .inr (.inr (List.mem_cons_of_mem _ h))
      · simp

/-- Slashes of either kind part a path; it begins with one or not. -/
theorem readPath_eq (w : List Char) : ∃ body : List Char,
    readPath w = resolve [] (((body.map fun c => if isSlash c then '/' else c).splitOn '/').map segment) :=
  ⟨_, rfl⟩

/-- Nothing in the segments of a path that was read is a slash or white space. -/
theorem plain_of_mem_readPath {w : List Char} {s : String} (hs : s ∈ readPath w) {c : Char} (hc : c ∈ s.toList) :
    32 < c.toNat ∧ isSlash c = false := by
  obtain ⟨body, hread⟩ := readPath_eq w
  rw [hread] at hs
  rcases mem_resolve hs with rfl | hs | hs
  · cases hc
  · cases hs
  · obtain ⟨part, hpart, rfl⟩ := List.mem_map.1 hs
    rw [segment, String.toList_ofList] at hc
    have hkept := kept_of_mem_percentEncode keepsCodes_path hc
    have hascii : isAscii c = true := by
      rw [Bool.and_eq_true] at hkept
      exact hkept.1
    have hshown : 32 < c.toNat :=
      forall_ascii (p := fun c => (isAscii c && keptInPath c) = true → 32 < c.toNat) (by decide) hascii hkept
    refine ⟨hshown, ?_⟩
    rcases mem_percentEncode hc with hc | rfl | hc
    · obtain ⟨hmem, hslash⟩ := of_mem_splitOn hpart hc
      obtain ⟨d, -, rfl⟩ := List.mem_map.1 hmem
      split at hslash
      · exact absurd rfl hslash
      next hd => rwa [if_neg hd, ← Bool.not_eq_true]
    · decide
    · obtain ⟨hslash, hback, -⟩ := special_eq_false_iff.1 (special_of_hexValue? hc)
      simp [isSlash, hslash, hback]

theorem mem_pathOf {segments : List String} {c : Char} (h : c ∈ (pathOf segments).toList) :
    c = '/' ∨ ∃ s ∈ segments, c ∈ s.toList := by
  cases segments with
  | nil => cases h
  | cons s rest =>
    rw [pathOf_toList (by simp), List.mem_cons] at h
    rcases h with rfl | h
    · exact .inl rfl
    · refine (mem_intercalate h).imp_right ?_
      rintro ⟨text, ht, hc⟩
      obtain ⟨s, hs, rfl⟩ := List.mem_map.1 ht
      exact ⟨s, hs, hc⟩

theorem OpensPlainly.behind {front p : List Char} (h : OpensPlainly p)
    (hfront : ∀ c ∈ front, c = '/' ∨ 32 < c.toNat ∧ isSlash c = false) :
    OpensPlainly ((front ++ p).dropWhile (· = '/')) := by
  have hstop : ∀ {c} (rest : List Char), isSlash c = false → (c :: rest).dropWhile (· = '/') = c :: rest := by
    intro c rest hc
    refine List.dropWhile_cons_of_neg ?_
    simp only [isSlash, Bool.or_eq_false_iff] at hc
    simpa using hc.1
  induction front with
  | nil =>
    obtain ⟨c, rest, rfl, hshown, hslash⟩ := h
    rw [List.nil_append, hstop rest hslash]
    exact ⟨c, rest, rfl, hshown, hslash⟩
  | cons c front ih =>
    rcases hfront c List.mem_cons_self with rfl | ⟨hshown, hslash⟩
    · rw [List.cons_append, List.dropWhile_cons_of_pos (by decide)]
      exact ih fun d hd => hfront d (List.mem_cons_of_mem _ hd)
    · rw [List.cons_append, hstop _ hslash]
      exact ⟨c, _, rfl, hshown, hslash⟩

/-- A path that a query was put behind is in normal form, so past its slashes it begins plainly. -/
theorem opensPlainly_of_withQuery {path path' : String} {pairs : List (String × String)}
    (hpath : path.toList.head? = some '/') (hpairs : pairs ≠ []) (h : withQuery path pairs = .ok path') :
    OpensPlainly (path'.toList.dropWhile (· = '/')) := by
  obtain ⟨rest, hrest⟩ := List.head?_eq_some_iff.1 hpath
  obtain ⟨scheme, z, -, hparse⟩ := parse_slash parse_normalizer
  have haddress : "http://upstream.invalid" ++ path =
      String.ofList ("http://upstream.invalid".toList ++ '/' :: rest) := by
    simp [← String.toList_inj, hrest]
  rw [withQuery, if_neg (by simpa using hpairs), haddress, hparse] at h
  cases hread : readWeb scheme (z ++ '/' :: trailing rest) with
  | error e =>
    rw [hread] at h
    cases h
  | ok u =>
    rw [hread] at h
    obtain ⟨-, w, hw⟩ := readWeb_ok hread
    have hquery : OpensPlainly ('?' :: (extendQuery u.query pairs).toList) :=
      ⟨'?', _, rfl, by decide, by decide⟩
    have hchars : ∀ c ∈ u.path.toList, c = '/' ∨ 32 < c.toNat ∧ isSlash c = false := by
      intro c hc
      refine (mem_pathOf hc).imp_right ?_
      rintro ⟨s, hs, hc⟩
      rw [hw] at hs
      exact plain_of_mem_readPath hs hc
    obtain rfl : u.path ++ "?" ++ extendQuery u.query pairs = path' := Except.ok.inj h
    rw [String.toList_append, String.toList_append, List.append_assoc]
    exact hquery.behind hchars

end SignatureDesk.Url
