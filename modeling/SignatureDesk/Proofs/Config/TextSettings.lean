/-
The settings that are texts, and what a variable of the environment makes of them. The
value of the last variable for a setting stands where the field is read from
(`TextSetting.LastWord.at?_layer`), whatever the defaults and the file say, so the field
holds the text as the environment spells it: the very text when that is settled, and
another one when it is not (`text_arrives_verbatim_iff`).
-/
import SignatureDesk.Proofs.Config.Layers
import SignatureDesk.Proofs.Config.Spellings
import SignatureDesk.Proofs.Config.VariableNames
import SignatureDesk.Proofs.Outcome

namespace SignatureDesk
namespace Config

/-- The settings that are texts. -/
inductive TextSetting where
  | host
  | endpoint
  | integrationUser
  | integrationPass
  | apiUrl
  | jwtSecret
  | publicKeyPath
  | rolesClaim
  | adminRole
deriving Repr, DecidableEq

namespace TextSetting

def sect : TextSetting → String
  | host => "server"
  | endpoint | integrationUser | integrationPass => "platform"
  | apiUrl => "cla"
  | jwtSecret | publicKeyPath | rolesClaim | adminRole => "auth"

def field : TextSetting → String
  | host => "host"
  | endpoint => "endpoint"
  | integrationUser => "integration_user"
  | integrationPass => "integration_pass"
  | apiUrl => "api_url"
  | jwtSecret => "jwt_secret"
  | publicKeyPath => "jwt_public_key_path"
  | rolesClaim => "roles_claim"
  | adminRole => "admin_role"

/-- What a configuration holds for the setting. -/
def held (c : Config) : TextSetting → Option String
  | host => some c.server.host
  | endpoint => some c.platform.endpoint
  | integrationUser => some c.platform.integrationUser
  | integrationPass => some c.platform.integrationPass
  | apiUrl => some c.claUrl
  | jwtSecret => c.auth.secret
  | publicKeyPath => c.auth.publicKeyPath
  | rolesClaim => some c.auth.rolesClaim
  | adminRole => some c.auth.adminRole

/-- The variable of the setting, in whatever case. -/
def IsVariable (s : TextSetting) (name : String) : Prop :=
  Text.eqIgnoringAsciiCase name ("console__" ++ s.sect ++ "__" ++ s.field) = true

/-- The environment gives the setting a text: nothing after its variable touches it. -/
def LastWord (s : TextSetting) (environment : List (String × String)) (v : String) : Prop :=
  ∃ before name after, environment = before ++ (name, v) :: after ∧ s.IsVariable name ∧
    ∀ x ∈ after, ∀ key, settingOf? x.1 = some key → Path.NameSpares s.sect s.field key

/-! ## Names -/

theorem isWord_sect (s : TextSetting) : IsWord s.sect.toList ∧ '_' ∉ s.sect.toList := by
  cases s <;> exact ⟨⟨by decide, List.all_eq_true.1 (by decide), by decide⟩, by decide⟩

theorem isWord_field (s : TextSetting) : IsWord s.field.toList := by
  cases s <;> exact ⟨by decide, List.all_eq_true.1 (by decide), by decide⟩

theorem sect_field_injective {s t : TextSetting} (hsect : s.sect = t.sect) (hfield : s.field = t.field) : s = t := by
  revert hsect hfield
  cases s <;> cases t <;> decide

/-- The variable of a setting has the path of the setting. -/
theorem IsVariable.read?_settingOf {s : TextSetting} {name : String} (h : s.IsVariable name) :
    ∃ key a f, settingOf? name = some key ∧ Path.read? key = some (.child (.name a) f) ∧
      Text.lower a = s.sect ∧ Text.lower f = s.field := by
  have hname : name.toList.map Text.asciiLowerChar = variableStart ++ (s.sect.toList ++ '_' :: '_' :: s.field.toList) := by
    rw [IsVariable, Text.eqIgnoringAsciiCase, beq_iff_eq] at h
    rw [h]
    cases s <;> decide
  obtain ⟨key, a, f, hkey, hpath, ha, hf⟩ :=
    Config.read?_settingOf s.isWord_sect.1 s.isWord_sect.2 s.isWord_field hname
  rw [String.ofList_toList] at hkey ha hf
  exact ⟨key, a, f, hkey, hpath, ha, hf⟩

/-- The variable of another setting does not touch the setting. -/
theorem IsVariable.spares {s t : TextSetting} {name key : String} (h : t.IsVariable name) (hne : s ≠ t)
    (hkey : settingOf? name = some key) : Path.NameSpares s.sect s.field key := by
  obtain ⟨key', a, f, hkey', hpath, ha, hf⟩ := h.read?_settingOf
  cases hkey.symm.trans hkey'
  rw [Path.NameSpares, hpath]
  intro hsect hfield
  exact hne (sect_field_injective (hsect.symm.trans ha) (hfield.symm.trans hf))

end TextSetting

/-! ## The value of the field -/

theorem Value.isScalar_of_text? {w : Value} {t : String} (h : w.text? = some t) : w.IsScalar := by
  cases w with
  | table es => cases h
  | _ => exact trivial

theorem exists_of_mem_ofEnvironment {environment : List (String × String)} {e : String × Value}
    (h : e ∈ ofEnvironment environment) : ∃ x ∈ environment, settingOf? x.1 = some e.1 ∧ e.2.IsScalar := by
  obtain ⟨x, hx, he⟩ := List.mem_filterMap.1 h
  obtain ⟨key, hkey, rfl⟩ := Option.map_eq_some_iff.1 he
  exact ⟨x, hx, hkey, Value.isScalar_of_text? (text?_variableValue x.2)⟩

/-- The last word on a setting stands in its field, whatever the layers below say. -/
theorem TextSetting.LastWord.at?_layer {s : TextSetting} {environment : List (String × String)} {v : String}
    (h : s.LastWord environment v) (root : Value) :
    (layer root (ofEnvironment environment)).at? s.sect s.field = some (variableValue v) := by
  obtain ⟨before, name, after, rfl, hname, hafter⟩ := h
  obtain ⟨key, a, f, hkey, hpath, ha, hf⟩ := hname.read?_settingOf
  have hsettings : ofEnvironment (before ++ (name, v) :: after) =
      ofEnvironment before ++ (key, variableValue v) :: ofEnvironment after := by
    rw [ofEnvironment, List.filterMap_append, List.filterMap_cons]
    simp only [hkey, Option.map_some]
    rfl
  have hspared : ∀ e ∈ ofEnvironment after, Path.NameSpares s.sect s.field e.1 ∧ e.2.IsScalar := by
    intro e he
    obtain ⟨x, hx, hxkey, hscalar⟩ := exists_of_mem_ofEnvironment he
    exact ⟨hafter x hx _ hxkey, hscalar⟩
  rw [hsettings, layer, List.foldl_append, List.foldl_cons]
  refine (Config.at?_layer hspared _).trans ?_
  rw [← ha, ← hf]
  exact Path.at?_assign_self hpath (Value.isScalar_of_text? (text?_variableValue v)) _

/-! ## Reading the fields -/

section Read

variable {v w : Value} {name t : String}

theorem field?_of_lookup (h : v.entries.lookup name = some w) (place : Nat) : v.field? place name = some w := by
  cases v with
  | table es => exact h
  | _ => cases h

theorem textField?_of_lookup (h : v.entries.lookup name = some w) (hw : w.text? = some t) (place : Nat) :
    textField? v place name = some t := by
  rw [textField?, field?_of_lookup h]
  exact hw

theorem optionalTextField?_of_lookup (h : v.entries.lookup name = some w) (hw : w.text? = some t) (place : Nat) :
    optionalTextField? v place name = some (some t) := by
  rw [optionalTextField?, field?_of_lookup h]
  cases w with
  | nil => cases hw
  | _ => exact congrArg (Option.map some) hw

theorem readServer?_eq_some {server : Server} (h : readServer? v = some server) :
    textField? v 0 "host" = some server.host := by
  simp only [readServer?, Option.bind_eq_bind, Option.bind_eq_some_iff, Option.some.injEq] at h
  obtain ⟨host, hhost, port, -, rfl⟩ := h
  exact hhost

theorem readPlatform?_eq_some {platform : Platform} (h : readPlatform? v = some platform) :
    textField? v 0 "endpoint" = some platform.endpoint ∧
      textField? v 1 "integration_user" = some platform.integrationUser ∧
      textField? v 2 "integration_pass" = some platform.integrationPass := by
  simp only [readPlatform?, Option.bind_eq_bind, Option.bind_eq_some_iff, Option.some.injEq] at h
  obtain ⟨endpoint, hendpoint, user, huser, pass, hpass, rfl⟩ := h
  exact ⟨hendpoint, huser, hpass⟩

theorem readAuth?_eq_some {auth : Auth} (h : readAuth? v = some auth) :
    optionalTextField? v 0 "jwt_secret" = some auth.secret ∧
      optionalTextField? v 1 "jwt_public_key_path" = some auth.publicKeyPath ∧
      textField? v 2 "roles_claim" = some auth.rolesClaim ∧ textField? v 3 "admin_role" = some auth.adminRole := by
  simp only [readAuth?, Option.bind_eq_bind, Option.bind_eq_some_iff, Option.some.injEq] at h
  obtain ⟨secret, hsecret, path, hpath, claim, hclaim, role, hrole, rfl⟩ := h
  exact ⟨hsecret, hpath, hclaim, hrole⟩

/-- The field of a setting holds the text of the value that stands there. -/
theorem TextSetting.held_eq {s : TextSetting} {root w : Value} {c : Config} (h : ofValue? root = some c)
    (hat : root.at? s.sect s.field = some w) (hw : w.text? = some t) : s.held c = some t := by
  obtain ⟨v, hsect, hfield⟩ := Option.bind_eq_some_iff.1 hat
  simp only [ofValue?, Option.bind_eq_bind, Option.bind_eq_some_iff, Option.some.injEq] at h
  obtain ⟨v₀, h₀, server, hserver, v₁, h₁, platform, hplatform, v₂, h₂, url, hurl, v₃, h₃, auth, hauth, v₄, -, limits,
    -, rfl⟩ := h
  -- The section of the setting is the one that its record was read from.
  cases s
  case host =>
    cases h₀.symm.trans (field?_of_lookup hsect 0)
    exact (readServer?_eq_some hserver).symm.trans (textField?_of_lookup hfield hw 0)
  case endpoint =>
    cases h₁.symm.trans (field?_of_lookup hsect 1)
    exact (readPlatform?_eq_some hplatform).1.symm.trans (textField?_of_lookup hfield hw 0)
  case integrationUser =>
    cases h₁.symm.trans (field?_of_lookup hsect 1)
    exact (readPlatform?_eq_some hplatform).2.1.symm.trans (textField?_of_lookup hfield hw 1)
  case integrationPass =>
    cases h₁.symm.trans (field?_of_lookup hsect 1)
    exact (readPlatform?_eq_some hplatform).2.2.symm.trans (textField?_of_lookup hfield hw 2)
  case apiUrl =>
    cases h₂.symm.trans (field?_of_lookup hsect 2)
    exact hurl.symm.trans (textField?_of_lookup hfield hw 0)
  case jwtSecret =>
    cases h₃.symm.trans (field?_of_lookup hsect 3)
    exact Option.some.inj ((readAuth?_eq_some hauth).1.symm.trans (optionalTextField?_of_lookup hfield hw 0))
  case publicKeyPath =>
    cases h₃.symm.trans (field?_of_lookup hsect 3)
    exact Option.some.inj ((readAuth?_eq_some hauth).2.1.symm.trans (optionalTextField?_of_lookup hfield hw 1))
  case rolesClaim =>
    cases h₃.symm.trans (field?_of_lookup hsect 3)
    exact (readAuth?_eq_some hauth).2.2.1.symm.trans (textField?_of_lookup hfield hw 2)
  case adminRole =>
    cases h₃.symm.trans (field?_of_lookup hsect 3)
    exact (readAuth?_eq_some hauth).2.2.2.symm.trans (textField?_of_lookup hfield hw 3)

end Read

/-- What is loaded was read from layers, the variables of the environment over the others. -/
theorem ofValue?_of_load {file : Option String} {environment : List (String × String)} {c : Config}
    (h : load file environment = .ok c) : ∃ below, ofValue? (layer below (ofEnvironment environment)) = some c := by
  rw [load, except_bind_ok_iff] at h
  obtain ⟨c', hread, h⟩ := h
  rw [except_bind_ok_iff] at h
  obtain ⟨-, -, hc⟩ := h
  cases hc
  rw [except_mapError_ok_iff] at hread
  unfold read at hread
  dsimp only at hread
  split at hread
  next =>
    rw [except_ok_bind] at hread
    split at hread
    next c' hvalue =>
      cases hread
      exact ⟨_, hvalue⟩
    next => cases hread
  next =>
    split at hread
    next =>
      rw [except_ok_bind] at hread
      split at hread
      next c' hvalue =>
        cases hread
        exact ⟨_, hvalue⟩
      next => cases hread
    next => cases hread

/-- A configuration that loads holds the text of a variable as the environment spells it, and
so the very text exactly when that is settled. -/
theorem text_arrives_verbatim_iff {s : TextSetting} {file : Option String} {environment : List (String × String)}
    {v : String} {c : Config} (hlast : s.LastWord environment v) (hload : load file environment = .ok c) :
    s.held c = some (respelled v) ∧ (s.held c = some v ↔ Settled v) := by
  obtain ⟨below, hvalue⟩ := ofValue?_of_load hload
  have hheld : s.held c = some (respelled v) := s.held_eq hvalue (hlast.at?_layer below) (text?_variableValue v)
  refine ⟨hheld, ?_⟩
  rw [hheld, Option.some.injEq]
  exact respelled_eq_iff v

end Config

namespace Sample

open Config

/-- A password of digits, and a secret. -/
def credentials : List (String × String) :=
  [("CONSOLE__PLATFORM__INTEGRATION_PASS", "007"), ("CONSOLE__AUTH__JWT_SECRET", "shh")]

/-- What is loaded from them and no file. -/
def loaded : Config where
  server := ⟨"0.0.0.0", 8081⟩
  platform := ⟨"http://localhost:5000/", "", "7"⟩
  claUrl := "http://localhost:5001"
  auth := ⟨some "shh", none, "https://sso.linuxfoundation.org/claims/roles", "cla-system-admin"⟩
  limits := ⟨30, 100, 50⟩

theorem load_credentials : load none credentials = .ok loaded := by decide +kernel

theorem lastWord_password : TextSetting.integrationPass.LastWord credentials "007" := by
  refine ⟨[], _, _, rfl, by unfold TextSetting.IsVariable; decide, ?_⟩
  intro x hx key hkey
  rw [List.mem_singleton.1 hx] at hkey
  have hsecret : TextSetting.jwtSecret.IsVariable "CONSOLE__AUTH__JWT_SECRET" := by
    unfold TextSetting.IsVariable
    decide
  exact hsecret.spares (by decide) hkey

theorem password_arrives_iff :
    TextSetting.integrationPass.LastWord credentials "007" ∧ load none credentials = .ok loaded ∧
      TextSetting.integrationPass.held loaded = some (respelled "007") ∧
      (TextSetting.integrationPass.held loaded = some "007" ↔ Settled "007") :=
  ⟨lastWord_password, load_credentials, text_arrives_verbatim_iff lastWord_password load_credentials⟩

/-- Not every text arrives as it is: this password loses its zeros. -/
theorem text_may_be_respelled :
    ¬ ∀ (s : TextSetting) (file : Option String) (environment : List (String × String)) (v : String) (c : Config),
      s.LastWord environment v → load file environment = .ok c → s.held c = some v := by
  intro claim
  have hheld := claim _ _ _ _ _ lastWord_password load_credentials
  have hlost : TextSetting.integrationPass.held loaded = some "7" := rfl
  rw [hlost] at hheld
  exact absurd hheld (by decide)

end Sample
end SignatureDesk
