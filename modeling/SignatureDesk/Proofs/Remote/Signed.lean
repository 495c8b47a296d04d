/-
Signed messages. A signature covers the method, the path with its query, the body and
the time of a message as it goes out, so whoever has the keys finds the same
signature from what arrives, with the time that the message itself tells
(`Link.signed_as_sent`). Whether a call can be sent does not depend on its signature
(`Link.sends_iff`).
-/
import SignatureDesk.Proofs.Remote.Wire
import SignatureDesk.Proofs.Time.Written
import SignatureDesk.Proofs.Url.Address

namespace SignatureDesk

open Dialogue

/-- The values of the headers of a name, in order. -/
def Message.values (m : Message) (name : String) : List String :=
  (m.headers.filter fun h => h.1 = name).map (·.2)

theorem ApiKeys.sign_truncate (keys : ApiKeys) (method path : String) (body : List UInt8) (at_ : Instant) :
    keys.sign method path body at_.truncate = keys.sign method path body at_ := by
  simp only [sign, Instant.writeSeconds_truncate]

namespace Base

variable {text path : String} {u u' : Url}

/-- A base is what its text begins with; what it is written with behind that are slashes. -/
theorem ofText_eq (text : String) : ∃ slashes, (∀ c ∈ slashes, c = '/') ∧
    text = String.ofList ((ofText text).text.toList ++ slashes) := by
  refine ⟨(text.toList.reverse.takeWhile (· = '/')).reverse, fun c hc => ?_, ?_⟩
  · simpa using List.mem_takeWhile_imp (List.mem_reverse.1 hc)
  · rw [ofText, String.toList_ofList, Text.dropRightWhile, ← List.reverse_append, List.takeWhile_append_dropWhile,
      List.reverse_reverse, String.ofList_toList]

/-- The addresses below a base have the user and the password that it is written with. -/
theorem user_address (base : Url.parse text = .ok (.web u))
    (below : Url.parse ((ofText text).address path) = .ok (.web u')) :
    u'.user = u.user ∧ u'.password = u.password := by
  obtain ⟨slashes, hslashes, htext⟩ := ofText_eq text
  rw [address_eq] at below
  rw [htext] at base
  cases slashes with
  | nil =>
    rw [List.append_nil] at base
    exact Url.user_below base below
  | cons c slashes =>
    obtain rfl : c = '/' := hslashes c (by simp)
    exact Url.user_beside (fun d hd => hslashes d (by simp [hd])) base below

end Base

namespace Link

theorem headersOfUrl_eq_nil {u : Url} (huser : u.user = "") (hpassword : u.password = none) :
    headersOfUrl u = [] := by
  have hplain : Text.ofUtf8? (Url.percentDecode []) = some "" := by
    simp [Url.percentDecode, Text.ofUtf8?, Text.Utf8.scan]
  simp [headersOfUrl, huser, hpassword, hplain]

/-- A signed message carries the signature and the time once. -/
theorem values_of_signed {m : Message} {keys : ApiKeys} {typed : Bool} {now : Instant}
    (h : m.headers = (if typed then [("content-type", "application/json")] else []) ++
      headersOf (.signed keys) m.method m.url.target m.body now) :
    m.values "authorization" = [(keys.sign m.method m.url.target (Text.utf8 m.body) now).authorization] ∧
      m.values Signing.dateHeader = [now.writeSeconds] := by
  have hsigned : headersOf (.signed keys) m.method m.url.target m.body now =
      [("authorization", (keys.sign m.method m.url.target (Text.utf8 m.body) now).authorization),
        (Signing.dateHeader, now.writeSeconds)] := rfl
  cases typed <;> simp [Message.values, h, hsigned, Signing.dateHeader]

/-- **What is signed is what is sent.** A message signed with keys, on a base that is an address
without a user, carries one signature and one time. The signature that the keys give for the
method, the path with its query and the body of the message, at the time read back from its header,
is the one that it carries, and tells the same time. -/
theorem signed_as_sent {text : String} {base : Url} (address : Url.parse text = .ok (.web base))
    (noUser : base.user = "") (noPassword : base.password = none) {keys : ApiKeys} {method path : String}
    {body : Option Json} {now : Instant} (kept : now.Kept) {m : Message}
    (sent : message (.ofText text) (.signed keys) method path body now = .ok m) :
    m.method = method ∧ m.body = (body.map Json.compact).getD "" ∧
      ∃ date at_, m.values Signing.dateHeader = [date] ∧ Instant.readRelaxed date = some at_ ∧
        m.values "authorization" = [(keys.sign m.method m.url.target (Text.utf8 m.body) at_).authorization] ∧
        date = (keys.sign m.method m.url.target (Text.utf8 m.body) at_).date := by
  obtain ⟨hparse, hmethod, hbody, hheaders⟩ := message_ok sent
  obtain ⟨huser, hpassword⟩ := Base.user_address address hparse
  have hnoUser : headersOfUrl m.url = [] := headersOfUrl_eq_nil (huser.trans noUser) (hpassword.trans noPassword)
  rw [hnoUser, List.nil_append, ← hmethod] at hheaders
  obtain ⟨hauthorization, hdate⟩ := values_of_signed hheaders
  refine ⟨hmethod, hbody, now.writeSeconds, now.truncate, hdate, Instant.readRelaxed_writeSeconds kept, ?_, ?_⟩
  · rw [ApiKeys.sign_truncate, hauthorization]
  · rw [ApiKeys.sign_truncate]
    rfl

end Link

/-! ## What can be sent -/

/-- A printed character of ASCII. -/
def isPrinted (c : Char) : Bool := 32 ≤ c.toNat && c.toNat < 127

theorem isPrinted_of_isAsciiDigit {c : Char} (h : Text.isAsciiDigit c = true) : isPrinted c = true := by
  simp only [Text.isAsciiDigit, Bool.and_eq_true, decide_eq_true_eq, Char.le_def, UInt32.le_iff_toNat_le] at h
  have hlow : 48 ≤ c.toNat := h.1
  have hhigh : c.toNat ≤ 57 := h.2
  simp only [isPrinted, Bool.and_eq_true, decide_eq_true_eq]
  omega

namespace Text.Base64

theorem isPrinted_digit (n : Nat) : isPrinted (digit '+' '/' n) = true := by
  have hupper : ∀ k < 26, isPrinted (Char.ofNat ('A'.toNat + k)) = true := by decide
  have hlower : ∀ k < 26, isPrinted (Char.ofNat ('a'.toNat + k)) = true := by decide
  have hdigit : ∀ k < 10, isPrinted (Char.ofNat ('0'.toNat + k)) = true := by decide
  rw [digit]
  split
  next h => exact hupper n h
  split
  next h => exact hlower (n - 26) (by omega)
  split
  next h => exact hdigit (n - 52) (by omega)
  split <;> decide

theorem all_encode (bytes : List UInt8) : (encode bytes).all isPrinted = true := by
  have hpad : isPrinted '=' = true := by decide
  rw [encode]
  induction bytes using encodeWith.induct with
  | case1 => rfl
  | case2 a => simp [encodeWith, isPrinted_digit, hpad]
  | case3 a b => simp [encodeWith, isPrinted_digit, hpad]
  | case4 a b c rest ih => simpa [encodeWith, isPrinted_digit] using ih

end Text.Base64

theorem Instant.all_writeSeconds (i : Instant) : i.writeSeconds.toList.all isPrinted = true := by
  have hpadded : ∀ width n, (padded width n).all isPrinted = true := fun width n =>
    List.all_eq_true.2 fun _ h => isPrinted_of_isAsciiDigit (isAsciiDigit_of_mem_padded h)
  have hyear : ∀ year, (writeYear year).all isPrinted = true := by
    intro year
    rw [writeYear]
    split
    · exact hpadded _ _
    · rw [List.all_cons, hpadded, Bool.and_true]
      split <;> decide
  have hmarks : isPrinted '-' = true ∧ isPrinted 'T' = true ∧ isPrinted ':' = true ∧ isPrinted 'Z' = true := by
    decide
  simp [writeSeconds, writeWith, hpadded, hyear, hmarks]

namespace Link

theorem isHeaderText_append (s t : String) : isHeaderText (s ++ t) = (isHeaderText s && isHeaderText t) := by
  simp [isHeaderText]

theorem isHeaderText_of_printed {s : String} (h : s.toList.all isPrinted = true) : isHeaderText s = true := by
  refine List.all_eq_true.2 fun c hc => ?_
  have hprinted := List.all_eq_true.1 h c hc
  simp only [isPrinted, Bool.and_eq_true, decide_eq_true_eq] at hprinted
  simp only [Bool.or_eq_true, Bool.and_eq_true, decide_eq_true_eq]
  exact .inr ⟨hprinted.1, by omega⟩

/-- The text that credentials put into a header as it is. -/
def verbatim : Credentials → String
  | .anonymous => ""
  | .basic _ _ => ""
  | .bearer token => token
  | .signed keys => keys.id

/-- A header for credentials can be sent when the text that it has from them can. -/
theorem all_headersOf (credentials : Credentials) (method target body : String) (now : Instant) :
    (headersOf credentials method target body now).all (isHeaderText ·.2) = isHeaderText (verbatim credentials) := by
  have hempty : isHeaderText "" = true := by decide
  have hencoded : ∀ bytes, isHeaderText (String.ofList (Text.Base64.encode bytes)) = true := fun bytes =>
    isHeaderText_of_printed (by rw [String.toList_ofList]; exact Text.Base64.all_encode bytes)
  cases credentials with
  | anonymous => exact hempty.symm
  | basic user pass =>
    have hscheme : isHeaderText "Basic " = true := by decide
    simp [headersOf, basicHeader, isHeaderText_append, hscheme, hencoded, verbatim, hempty]
  | bearer token =>
    have hscheme : isHeaderText "Bearer " = true := by decide
    simp [headersOf, isHeaderText_append, hscheme, verbatim]
  | signed keys =>
    have hscheme : isHeaderText "CINCO " = true ∧ isHeaderText ":" = true := by decide
    have hdate := isHeaderText_of_printed now.all_writeSeconds
    simp [headersOf, ApiKeys.sign, Signing.code, Signing.scheme, isHeaderText_append, hscheme, hencoded, hdate, verbatim]

/-- Whether a message can be sent depends on its credentials by that text alone. -/
theorem message_isSome (b : Base) (credentials : Credentials) (method path : String) (body : Option Json)
    (now : Instant) : (message b credentials method path body now).toOption.isSome =
      (isHeaderText (verbatim credentials) && (message b .anonymous method path body now).toOption.isSome) := by
  have hempty : isHeaderText (verbatim .anonymous) = true := by decide
  unfold message
  cases hp : Url.parse (b.address path) with
  | error e => simp [hp, Except.toOption]
  | ok a =>
    cases a with
    | foreign => simp [hp, Except.toOption]
    | web url =>
      simp only [hp, List.all_append, all_headersOf, hempty, Bool.and_true]
      -- What is left are conditions that both messages have, and the one on the text.
      generalize (if body.isSome then _ else _) = typed
      generalize ((headersOfUrl url).all fun h => isHeaderText h.2) = plainUrl
      generalize (typed.all fun h => isHeaderText h.2) = plainBody
      cases isHeaderText (verbatim credentials) <;> cases plainUrl <;> cases plainBody <;>
        cases ["http", "https"].contains url.scheme <;> rfl

variable {l : Link}

/-- The call can be sent. -/
def sends (l : Link) (c : Call) : Bool :=
  isHeaderText (verbatim c.credentials) && (l.request { c with credentials := .anonymous }).toOption.isSome

theorem sends_iff {c : Call} : l.sends c = true ↔ ∃ r, l.request c = .ok r := by
  have hmessage : ∀ c, (l.request c).toOption.isSome =
      (message (l.base c.service) c.credentials c.method.name c.path c.body l.now).toOption.isSome := by
    intro c
    rw [request]
    cases message (l.base c.service) c.credentials c.method.name c.path c.body l.now <;> rfl
  have hsends : l.sends c = (l.request c).toOption.isSome := by
    rw [sends, hmessage, hmessage c]
    exact (message_isSome ..).symm
  rw [hsends, Option.isSome_iff_exists]
  simp only [except_toOption_eq_some_iff]

/-- Calls that can be sent may be replied to, each with any reply. -/
theorem exists_tells {u : List ((_ : Call) × Except Failure Reply)}
    (h : ∀ x ∈ u, l.sends x.1 = true ∧ ∃ reply, x.2 = .ok reply) : ∃ t, Tells l.carry t u := by
  induction u with
  | nil => exact ⟨[], .nil⟩
  | cons x u ih =>
    obtain ⟨t, tells⟩ := ih fun y hy => h y (List.mem_cons_of_mem x hy)
    obtain ⟨c, a⟩ := x
    obtain ⟨hsends, reply, hreply⟩ := h ⟨c, a⟩ List.mem_cons_self
    obtain rfl : a = .ok reply := hreply
    obtain ⟨r, hr⟩ := sends_iff.1 hsends
    have hcarry : (l.carry c).Transcript [⟨r, some reply⟩] (.ok reply) := by
      rw [carry, hr]
      exact .ask .done
    exact ⟨_, .cons hcarry tells⟩

/-- Work whose calls can all be sent may be replied to as its calls are. -/
theorem exists_run_transcript {α : Type} {d : Calling α} (answer : Call → Reply)
    (sent : (d.questions (fun _ c => .ok (answer c)) []).all l.sends = true) :
    ∃ t, (l.run d).Transcript t (d.result (fun _ c => .ok (answer c)) []) ∧
      t.map (·.1.call) = d.questions (fun _ c => .ok (answer c)) [] := by
  obtain ⟨u, run, asked, answers⟩ := exists_transcript_answered (fun c => .ok (answer c)) d []
  rw [List.nil_append] at asked
  have hreplied : ∀ x ∈ u, ∃ reply, x.2 = .ok reply := fun x hx => ⟨_, answers x hx⟩
  have hsends : ∀ x ∈ u, l.sends x.1 = true := by
    rw [← asked] at sent
    exact fun x hx => List.all_eq_true.1 sent _ (List.mem_map_of_mem hx)
  obtain ⟨t, tells⟩ := exists_tells fun x hx => ⟨hsends x hx, hreplied x hx⟩
  exact ⟨t, run_transcript_iff.2 ⟨u, run, tells⟩, (tells_carry_calls tells hreplied).trans asked⟩

end Link

namespace Sample

/-- A message whose path is not in normal form. -/
def oddMessage : Except Failure Message :=
  Link.message (.ofText "http://cla.test/api/") (.signed ⟨"k", "s"⟩) "POST" "//a b/../c?x=%7e&é#f"
    (some (.obj [("lfId", .str "ada")])) ⟨1700000000, 999⟩

/-- It is signed for the path in normal form, with the query as it is encoded. -/
theorem oddMessage_signed : ∃ m date at_, oddMessage = .ok m ∧ m.url.target = "/api/c?x=%7e&%C3%A9" ∧
    m.values Signing.dateHeader = [date] ∧ Instant.readRelaxed date = some at_ ∧
    m.values "authorization" = [(ApiKeys.sign ⟨"k", "s"⟩ "POST" "/api/c?x=%7e&%C3%A9"
      (Text.utf8 "\x7b\"lfId\":\"ada\"\x7d") at_).authorization] := by
  have haddress : Url.parse "http://cla.test/api/" =
      .ok (.web ⟨"http", "", none, .name "cla.test", none, ["api", ""], none, none⟩) :=
    except_toOption_eq_some_iff.1 (by decide +kernel)
  have hkept : Instant.Kept ⟨1700000000, 999⟩ := ⟨by decide, by decide, by decide⟩
  have hurl : Url.parse ((Base.ofText "http://cla.test/api/").address "//a b/../c?x=%7e&é#f") =
      .ok (.web ⟨"http", "", none, .name "cla.test", none, ["api", "c"], some "x=%7e&%C3%A9", some "f"⟩) :=
    except_toOption_eq_some_iff.1 (by decide +kernel)
  obtain ⟨m, hm⟩ : ∃ m, oddMessage = .ok m := by
    have hsent : oddMessage.toOption.isSome = true := by
      rw [oddMessage, Link.message_isSome]
      decide +kernel
    obtain ⟨m, hm⟩ := Option.isSome_iff_exists.1 hsent
    exact ⟨m, except_toOption_eq_some_iff.1 hm⟩
  obtain ⟨hparse, -, hbody, -⟩ := Link.message_ok hm
  have htarget : m.url.target = "/api/c?x=%7e&%C3%A9" := by
    have hsame := hparse.symm.trans hurl
    simp only [Except.ok.injEq, Url.Address.web.injEq] at hsame
    rw [hsame]
    decide +kernel
  have htext : m.body = "\x7b\"lfId\":\"ada\"\x7d" := hbody.trans (by decide +kernel)
  obtain ⟨hmethod, -, date, at_, hdate, hread, hauthorization, -⟩ :=
    Link.signed_as_sent haddress rfl rfl hkept hm
  rw [hmethod, htarget, htext] at hauthorization
  exact ⟨m, date, at_, hm, htarget, hdate, hread, hauthorization⟩

end Sample
end SignatureDesk
