import Effects.Config.Sources
import Effects.Program.Request
import Effects.Proofs.Driving
import Effects.Proofs.Fields

/-!
# The secret in the environment

A configuration says which cookie is valid, and a variable of the environment has the last word
about it. Variables hold text, and text that looks like a flag or a number is taken for one; a text
that is asked for again is then written anew. So the secret is not what the variable holds but
`Environment.rewritten` of it, and the two are the same text only for some texts: those that look
like nothing else, and those that are written already as they would be written (`Verbatim`).

What a setting is about is told by the first name on the path of its key. Laying settings over each
other leaves a member of the configuration alone unless a path starts there.
-/

namespace Effects

/-! ## Members of a configuration -/

namespace Setting

/-- The path of a key starts at a member. -/
def Under (key field : String) : Prop :=
  ∃ name rest, pathOfKey key = .member name :: rest ∧ Text.lower name = field

/-- Two settings that have the same members, up to one. -/
def SameBut (field : String) (s t : Setting) : Prop :=
  ∀ other, other ≠ field → s.members.get? other = t.members.get? other

theorem exists_under (key : String) : ∃ field, Under key field := by
  cases hpath : path? key with
  | none => exact ⟨_, key, [], by simp [pathOfKey, hpath], rfl⟩
  | some path =>
    have hfirst : ∃ name rest, path = .member name :: rest := by
      simp only [path?, name?, Option.bind_eq_bind, Option.bind_eq_some_iff] at hpath
      obtain ⟨⟨first, after⟩, hname, rest, -, hpath⟩ := hpath
      split_ifs at hname
      cases hname
      exact ⟨_, rest, (Option.some.inj hpath).symm⟩
    obtain ⟨name, rest, rfl⟩ := hfirst
    exact ⟨_, name, rest, by simp [pathOfKey, hpath], rfl⟩

/-- Setting a value looks at one member, and sets this member. -/
theorem exists_assign_eq {key field : String} (h : Under key field) (value : Setting) :
    ∃ update : Option Setting → Setting, ∀ target : Setting,
      assign value (pathOfKey key) target =
        .table (target.members.insert field (update (target.members.get? field))) := by
  obtain ⟨name, rest, hpath, rfl⟩ := h
  rw [hpath]
  cases rest with
  | nil =>
    cases value with
    | table members =>
      exact ⟨fun member => putAll (member.getD (.table [])) members, fun target => by
        rw [assign, put]⟩
    | _ => exact ⟨fun _ => _, fun target => by rw [assign, put]; nofun⟩
  | cons step rest =>
    exact ⟨fun member => assign value (step :: rest) (member.getD .nothing), fun target => by
      rw [assign]; nofun⟩

variable {field key other : String} {s t : Setting}

theorem get?_assign_of_ne (h : Under key other) (hne : field ≠ other) (value target : Setting) :
    (assign value (pathOfKey key) target).members.get? field = target.members.get? field := by
  obtain ⟨update, hassign⟩ := exists_assign_eq h value
  rw [hassign]
  exact Fields.get?_insert_of_ne hne _ _

/-- A setting that is text replaces the member that it is put under. -/
theorem get?_assign_of_text {single : Setting} {text : String}
    (htext : single.text? = some text) (name : String) (target : Setting) :
    (assign single [.member name] target).members.get? (Text.lower name) = some single := by
  cases single with
  | string | bool | integer | float => exact Fields.get?_insert_self _ _ _
  | nothing | array | table => cases htext

theorem SameBut.assign (hsame : SameBut field s t) (h : Under key other) (hne : other ≠ field)
    (value : Setting) :
    SameBut field (assign value (pathOfKey key) s) (assign value (pathOfKey key) t) := by
  obtain ⟨update, hassign⟩ := exists_assign_eq h value
  intro another hanother
  rw [hassign, hassign, hsame other hne]
  by_cases heq : another = other
  · subst heq
    exact (Fields.get?_insert_self _ _ _).trans (Fields.get?_insert_self _ _ _).symm
  · exact (Fields.get?_insert_of_ne heq _ _).trans
      ((hsame another hanother).trans (Fields.get?_insert_of_ne heq _ _).symm)

theorem SameBut.overlay (hsame : SameBut field s t) {settings : List (String × Setting)}
    (h : ∀ setting ∈ settings, ¬ Under setting.1 field) :
    SameBut field (s.overlay settings) (t.overlay settings) ∧
      (s.overlay settings).members.get? field = s.members.get? field := by
  induction settings generalizing s t with
  | nil => exact ⟨hsame, rfl⟩
  | cons setting settings ih =>
    obtain ⟨other, hunder⟩ := exists_under setting.1
    have hne : other ≠ field := fun heq => h setting (List.mem_cons_self ..) (heq ▸ hunder)
    obtain ⟨hlater, hkept⟩ := ih (hsame.assign hunder hne setting.2)
      fun later hlater => h later (List.mem_cons_of_mem _ hlater)
    exact ⟨hlater, hkept.trans (get?_assign_of_ne hunder (Ne.symm hne) _ _)⟩

theorem exists_overlay_eq_table (members : Fields Setting) (settings : List (String × Setting)) :
    ∃ members', overlay (.table members) settings = .table members' := by
  induction settings generalizing members with
  | nil => exact ⟨members, rfl⟩
  | cons setting settings ih =>
    obtain ⟨field, hunder⟩ := exists_under setting.1
    obtain ⟨update, hassign⟩ := exists_assign_eq hunder setting.2
    rw [overlay, List.foldl_cons, hassign]
    exact ih _

end Setting

/-! ## Variables -/

namespace Environment

/-- A variable sets a member of the configuration, or something in it. -/
def Mentions (env : Environment) (field : String) : Prop :=
  ∃ v ∈ env, ∃ key, key? v.1 = some key ∧ Setting.Under key field

/-- The text that the value of a variable becomes when it is asked for as text. -/
def rewritten (text : String) : String := ((settingOf text).text?).getD text

/-- A value that is written as it would be written anew. -/
structure Verbatim (text : String) : Prop where
  /-- A flag is written in small letters. -/
  flag : ∀ b : Bool, Text.lower text = toString b → text = toString b
  /-- A whole number of 64 bits has no plus sign and no zeros in front. -/
  integer : ∀ n, Decimal.int? text = some n → Decimal.isWord n → text = toString n
  /-- Any other number is written with the fewest digits that tell the double, and without an
  exponent; of the values that are no numbers there is one way to write each. -/
  float : (∀ n, Decimal.int? text = some n → ¬ Decimal.isWord n) →
    ∀ x, Decimal.float? text = some x → text = Decimal.Layout.plain.write x

variable {env : Environment} {name key text : String}

/-- What a value is taken for. -/
theorem settingOf_cases (text : String) :
    (∃ b : Bool, Text.lower text = toString b ∧ settingOf text = .bool b) ∨
    (∀ b : Bool, Text.lower text ≠ toString b) ∧
      ((∃ n, Decimal.int? text = some n ∧ Decimal.isWord n ∧ settingOf text = .integer n) ∨
      (∀ n, Decimal.int? text = some n → ¬ Decimal.isWord n) ∧
        ((∃ x, Decimal.float? text = some x ∧ settingOf text = .float x) ∨
        Decimal.float? text = none ∧ settingOf text = .string text)) := by
  by_cases htrue : Text.lower text = "true"
  · exact .inl ⟨true, htrue, by simp [settingOf, htrue]⟩
  by_cases hfalse : Text.lower text = "false"
  · exact .inl ⟨false, hfalse, by simp [settingOf, hfalse]⟩
  refine .inr ⟨fun b => by cases b <;> assumption, ?_⟩
  cases hint : (Decimal.int? text).filter Decimal.isWord with
  | some n =>
    obtain ⟨hread, hword⟩ := Option.filter_eq_some_iff.mp hint
    exact .inl ⟨n, hread, hword, by simp [settingOf, htrue, hfalse, hint]⟩
  | none =>
    refine .inr ⟨fun n hread => Option.filter_eq_none_iff.mp hint n hread, ?_⟩
    cases hfloat : Decimal.float? text with
    | some x => exact .inl ⟨x, rfl, by simp [settingOf, htrue, hfalse, hint, hfloat]⟩
    | none => exact .inr ⟨rfl, by simp [settingOf, htrue, hfalse, hint, hfloat]⟩

/-- What a value is rewritten as. -/
theorem rewritten_cases (text : String) :
    (∃ b : Bool, Text.lower text = toString b ∧ rewritten text = toString b) ∨
    (∀ b : Bool, Text.lower text ≠ toString b) ∧
      ((∃ n, Decimal.int? text = some n ∧ Decimal.isWord n ∧ rewritten text = toString n) ∨
      (∀ n, Decimal.int? text = some n → ¬ Decimal.isWord n) ∧
        ((∃ x, Decimal.float? text = some x ∧ rewritten text = Decimal.Layout.plain.write x) ∨
        Decimal.float? text = none ∧ rewritten text = text)) := by
  unfold rewritten
  obtain ⟨b, hb, heq⟩ | ⟨hb, ⟨n, hn, hword, heq⟩ | ⟨hn, ⟨x, hx, heq⟩ | ⟨hx, heq⟩⟩⟩ :=
    settingOf_cases text
  · exact .inl ⟨b, hb, by rw [heq]; cases b <;> rfl⟩
  · exact .inr ⟨hb, .inl ⟨n, hn, hword, by rw [heq]; rfl⟩⟩
  · exact .inr ⟨hb, .inr ⟨hn, .inl ⟨x, hx, by rw [heq]; rfl⟩⟩⟩
  · exact .inr ⟨hb, .inr ⟨hn, .inr ⟨hx, by rw [heq]; rfl⟩⟩⟩

theorem text?_settingOf (text : String) : (settingOf text).text? = some (rewritten text) := by
  unfold rewritten
  obtain ⟨b, -, heq⟩ | ⟨-, ⟨n, -, -, heq⟩ | ⟨-, ⟨x, -, heq⟩ | ⟨-, heq⟩⟩⟩ := settingOf_cases text <;>
    rw [heq] <;> rfl

theorem number_of_flag (b : Bool) :
    Decimal.int? (toString b) = none ∧ Decimal.float? (toString b) = none := by
  cases b <;> exact ⟨by decide +kernel, by rfl⟩

/-- A value is kept as it is exactly if it is written as it would be written anew. -/
theorem rewritten_eq_self_iff (text : String) : rewritten text = text ↔ Verbatim text := by
  constructor
  · intro hkept
    obtain ⟨b, hb, heq⟩ | ⟨hb, hnumber⟩ := rewritten_cases text
    · have hflag : text = toString b := hkept.symm.trans heq
      obtain ⟨hint, hfloat⟩ := number_of_flag b
      rw [← hflag] at hint hfloat
      refine ⟨fun b' hb' => by rw [← hb', hb, ← hflag], fun n hn => ?_, fun _ x hx => ?_⟩
      · rw [hint] at hn
        cases hn
      · rw [hfloat] at hx
        cases hx
    · obtain ⟨n, hn, hword, heq⟩ | ⟨hn, hfloat⟩ := hnumber
      · refine ⟨fun b hb' => absurd hb' (hb b), fun n' hn' _ => ?_,
          fun hnone => absurd hword (hnone n hn)⟩
        obtain rfl : n = n' := Option.some.inj (hn.symm.trans hn')
        exact hkept.symm.trans heq
      · refine ⟨fun b hb' => absurd hb' (hb b), fun n hn' hword => absurd hword (hn n hn'),
          fun _ x hx => ?_⟩
        obtain ⟨x', hx', heq⟩ | ⟨hnone, -⟩ := hfloat
        · obtain rfl : x' = x := Option.some.inj (hx'.symm.trans hx)
          exact hkept.symm.trans heq
        · rw [hnone] at hx
          cases hx
  · intro h
    obtain ⟨b, hb, heq⟩ | ⟨-, ⟨n, hn, hword, heq⟩ | ⟨hn, ⟨x, hx, heq⟩ | ⟨-, heq⟩⟩⟩ :=
      rewritten_cases text
    · exact heq.trans (h.flag b hb).symm
    · exact heq.trans (h.integer n hn hword).symm
    · exact heq.trans (h.float hn x hx).symm
    · exact heq

theorem exists_of_mem_settings {setting : String × Setting} (h : setting ∈ env.settings) :
    ∃ v ∈ env, key? v.1 = some setting.1 := by
  have hname : setting.1 ∈ Fields.names env.settings := List.mem_map_of_mem h
  rw [settings, Fields.mem_names_ofList, List.mem_map] at hname
  obtain ⟨pair, hpair, heq⟩ := hname
  obtain ⟨v, hv, hset⟩ := List.mem_filterMap.mp hpair
  obtain ⟨key, hkey, rfl⟩ := Option.map_eq_some_iff.mp hset
  exact ⟨v, hv, by rw [hkey, ← heq]⟩

/-- A variable whose key no other one sets adds one setting. -/
theorem settings_insert (hkey : key? name = some key) (hfree : ∀ v ∈ env, key? v.1 ≠ some key)
    (text : String) :
    Environment.settings (Fields.insert env name text) =
      env.settings.insert key (settingOf text) := by
  have hname : name ∉ Fields.names env := by
    intro hmem
    obtain ⟨v, hv, rfl⟩ := List.mem_map.mp hmem
    exact hfree v hv hkey
  obtain ⟨before, after, rfl, hinsert⟩ := Fields.exists_insert_eq_append hname text
  rw [hinsert, settings, settings, List.filterMap_append, List.filterMap_append,
    List.filterMap_cons_some (by rw [hkey]; rfl)]
  refine Fields.ofList_append_cons fun hmem => ?_
  obtain ⟨pair, hpair, rfl⟩ := List.mem_map.mp hmem
  obtain ⟨v, hv, hpair⟩ := List.mem_filterMap.mp hpair
  obtain ⟨key, hkey', rfl⟩ := Option.map_eq_some_iff.mp hpair
  exact hfree v (List.mem_append_right _ hv) hkey'

end Environment

/-! ## The configuration -/

namespace Config

variable {file : Option SourceFile} {env : Environment} {base : Config}

theorem ofSetting?_table (members : Fields Setting) :
    ofSetting? (.table members) = (members.get? "secret").bind fun secret => do
      return ⟨← secret.text?,
        ← partOr Setting.text? defaultLogFilter (members.get? "log_filter"),
        ← partOr storeOfSetting? ⟨0, 0, []⟩ (members.get? "store")⟩ := by
  have hparts : (Setting.table members).parts? ["secret", "log_filter", "store"] =
      some [members.get? "secret", members.get? "log_filter", members.get? "store"] := rfl
  rw [ofSetting?, hparts]
  cases members.get? "secret" <;> rfl

/-- Where only the secret differs, only the secret of the configuration differs. -/
theorem ofSetting?_of_sameBut {members members' : Fields Setting} {secret : Setting} {text : String}
    (hsame : Setting.SameBut "secret" (.table members') (.table members))
    (hbase : ofSetting? (.table members) = some base)
    (hsecret : members'.get? "secret" = some secret) (htext : secret.text? = some text) :
    ofSetting? (.table members') = some { base with secret := text } := by
  have hfilter : members'.get? "log_filter" = members.get? "log_filter" :=
    hsame _ (by decide)
  have hstore : members'.get? "store" = members.get? "store" := hsame _ (by decide)
  rw [ofSetting?_table] at hbase ⊢
  rw [hfilter, hstore, hsecret, Option.bind_some, htext]
  cases hold : members.get? "secret" with
  | none => simp [hold] at hbase
  | some old =>
    rw [hold, Option.bind_some] at hbase
    cases hoverwritten : old.text? with
    | none => simp [hoverwritten] at hbase
    | some overwritten =>
      rw [hoverwritten] at hbase
      simp only [Option.bind_eq_bind, Option.bind_some, Option.bind_eq_some_iff,
        Option.pure_def, Option.some.injEq] at hbase ⊢
      obtain ⟨filter, hfilter, store, hstore, rfl⟩ := hbase
      exact ⟨filter, hfilter, store, hstore, rfl⟩

theorem ofSources_none (env : Environment) : ofSources none env =
    match ofSetting? ((defaults.overlay []).overlay env.settings) with
    | some config => .ok config
    | none => .error .invalid := rfl

/-- The variables of the environment are laid over one table, which the defaults and a file make. -/
theorem exists_ofSources_eq (hbase : ofSources file env = .ok base) :
    ∃ members : Fields Setting, ∀ env : Environment, ofSources file env =
      match ofSetting? ((Setting.table members).overlay env.settings) with
      | some config => .ok config
      | none => .error .invalid := by
  have hdefaults (settings : Fields Setting) :
      ∃ members, defaults.overlay settings = .table members :=
    Setting.exists_overlay_eq_table _ settings
  cases file with
  | none =>
    obtain ⟨members, hmembers⟩ := hdefaults []
    exact ⟨members, fun env => hmembers ▸ ofSources_none env⟩
  | some file =>
    cases hfile : file.settings? with
    | none =>
      rw [ofSources, hfile] at hbase
      cases hbase
    | some settings =>
      obtain ⟨members, hmembers⟩ := hdefaults settings
      refine ⟨members, fun env => ?_⟩
      rw [← hmembers]
      simp only [ofSources, hfile]
      rfl

theorem key?_secretVariable : Environment.key? "EFFECTKIT_SECRET" = some "secret" := by
  with_unfolding_all rfl

theorem pathOfKey_secret : Setting.pathOfKey "secret" = [.member "secret"] := by
  with_unfolding_all rfl

theorem lower_secret : Text.lower "secret" = "secret" := by with_unfolding_all rfl

theorem under_secret : Setting.Under "secret" "secret" :=
  ⟨"secret", [], pathOfKey_secret, lower_secret⟩

/-- The secret is what the variable that sets it is rewritten as. -/
theorem ofSources_insert (hbase : ofSources file env = .ok base)
    (hfree : ¬ env.Mentions "secret") (text : String) :
    ofSources file (Fields.insert env "EFFECTKIT_SECRET" text) =
      .ok { base with secret := Environment.rewritten text } := by
  obtain ⟨members, hsources⟩ := exists_ofSources_eq hbase
  have hother (setting : String × Setting) (h : setting ∈ env.settings) :
      ¬ Setting.Under setting.1 "secret" := by
    intro hunder
    obtain ⟨v, hv, hkey⟩ := Environment.exists_of_mem_settings h
    exact hfree ⟨v, hv, setting.1, hkey, hunder⟩
  have hsettings := Environment.settings_insert key?_secretVariable
    (fun v hv hkey => hfree ⟨v, hv, "secret", hkey, under_secret⟩) text
  have hname : "secret" ∉ Fields.names env.settings := by
    intro hmem
    obtain ⟨setting, hsetting, hname⟩ := List.mem_map.mp hmem
    exact hother setting hsetting (hname ▸ under_secret)
  -- the secret is set between the settings with smaller and those with greater names
  obtain ⟨before, after, happend, hinsert⟩ :=
    Fields.exists_insert_eq_append hname (Environment.settingOf text)
  have hafter (setting : String × Setting) (h : setting ∈ after) :
      ¬ Setting.Under setting.1 "secret" :=
    hother setting (happend ▸ List.mem_append_right _ h)
  obtain ⟨early, hearly⟩ := Setting.exists_overlay_eq_table members before
  have hsettingsBefore : (Setting.table members).overlay env.settings =
      (Setting.table early).overlay after := by
    rw [happend, ← hearly]
    exact List.foldl_append
  obtain ⟨update, hassign⟩ := Setting.exists_assign_eq under_secret (Environment.settingOf text)
  have hsettingsAfter : (Setting.table members).overlay
        (Environment.settings (Fields.insert env "EFFECTKIT_SECRET" text)) =
      (Setting.assign (Environment.settingOf text) (Setting.pathOfKey "secret")
        (.table early)).overlay after := by
    rw [hsettings, hinsert, ← hearly]
    exact List.foldl_append
  have hstep : Setting.SameBut "secret"
      (Setting.assign (Environment.settingOf text) (Setting.pathOfKey "secret") (.table early))
      (.table early) := fun other hne => Setting.get?_assign_of_ne under_secret hne _ _
  obtain ⟨hsame, hkept⟩ := hstep.overlay hafter
  have htext := Environment.text?_settingOf text
  have hsecret := Setting.get?_assign_of_text htext "secret" (.table early)
  rw [lower_secret, ← pathOfKey_secret, ← hkept] at hsecret
  rw [hsources, hsettingsBefore] at hbase
  rw [hsources, hsettingsAfter]
  rw [hassign] at hsame hsecret ⊢
  obtain ⟨members, hmembers⟩ := Setting.exists_overlay_eq_table early after
  obtain ⟨members', hmembers'⟩ := Setting.exists_overlay_eq_table _ after
  rw [hmembers] at hsame hbase
  rw [hmembers'] at hsame hsecret ⊢
  have hread : ofSetting? (.table members) = some base := by
    split at hbase
    · next config hconfig => rw [hconfig, Except.ok.inj hbase]
    · cases hbase
  rw [ofSetting?_of_sameBut hsame hread hsecret htext]

/-- Where no source says anything, the defaults hold. -/
theorem ofSources_nothing : ofSources none [] = .ok ⟨"SECRET", "info", ⟨0, 1, []⟩⟩ := by
  rfl

theorem rewritten_zeros : Environment.rewritten "007" = "7" := by
  with_unfolding_all rfl

/-- The cookie is compared with the secret of the configuration. -/
theorem drive_validCookie (config : Config) (cookie : String) (w : World) :
    (w.carryOut (((configHandler config.record).toLayer.apply
      (Program.validCookie cookie)).drive)).1 = .ok (.bool (cookie = config.secret)) := by
  have hcompared : (w.carryOut (((configHandler config.record).toLayer.apply
      (Program.validCookie cookie)).drive)).1 =
        .ok (.bool (some config.secret = some cookie)) := rfl
  rw [hcompared, decide_eq_decide.mpr (Option.some_inj.trans eq_comm)]

theorem key?_retriesVariable :
    Environment.key? "EFFECTKIT_STORE__RETRIES" = some "store.retries" := by
  with_unfolding_all rfl

theorem key?_otherVariable : Environment.key? "HOME" = none := by with_unfolding_all rfl

theorem pathOfKey_retries :
    Setting.pathOfKey "store.retries" = [.member "store", .member "retries"] := by
  with_unfolding_all rfl

theorem not_mentions_retries :
    ¬ Environment.Mentions [("EFFECTKIT_STORE__RETRIES", "4"), ("HOME", "/root")] "secret" := by
  rintro ⟨v, hv, key, hkey, name, rest, hpath, hlower⟩
  rcases List.mem_pair.mp hv with rfl | rfl
  · obtain rfl : "store.retries" = key := Option.some.inj (key?_retriesVariable.symm.trans hkey)
    rw [pathOfKey_retries] at hpath
    cases hpath
    exact absurd hlower (by decide +kernel)
  · rw [key?_otherVariable] at hkey
    cases hkey

theorem ofSources_retries :
    ofSources none [("EFFECTKIT_STORE__RETRIES", "4"), ("HOME", "/root")] =
      .ok ⟨"SECRET", "info", ⟨0, 4, []⟩⟩ := by
  have hsettings : Environment.settings [("EFFECTKIT_STORE__RETRIES", "4"), ("HOME", "/root")] =
      [("store.retries", .integer 4)] := by
    have hvalue : Environment.settingOf "4" = .integer 4 := by
      have hlower : Text.lower "4" = "4" := by decide +kernel
      have hfour : (Decimal.int? "4").filter Decimal.isWord = some 4 := by decide +kernel
      simp [Environment.settingOf, hlower, hfour]
    simp [Environment.settings, key?_retriesVariable, key?_otherVariable, hvalue, Fields.ofList,
      Fields.insert]
  have hlower : Text.lower "store" = "store" ∧ Text.lower "retries" = "retries" := by
    decide +kernel
  have hoverlay : (defaults.overlay []).overlay [("store.retries", .integer 4)] =
      .table [("log_filter", .string "info"), ("secret", .string "SECRET"),
        ("store", .table [("latency_ms", .integer 0), ("retries", .integer 4)])] := by
    have horder : ¬ "store" < "log_filter" ∧ ¬ "store" < "secret" ∧ ¬ "retries" < "latency_ms" := by
      decide
    simp only [Setting.overlay, List.foldl_cons, List.foldl_nil, pathOfKey_retries, Setting.assign,
      Setting.put, hlower, defaults, Setting.members, Fields.get?, Fields.insert, horder,
      defaultLogFilter]
    rfl
  rw [ofSources_none, hsettings, hoverlay]
  rfl

/-- The variable for the secret sets the secret that cookies are checked against, but not character
for character: text that looks like a flag or a number is written anew. Nothing else changes. The
secret is the value of the variable exactly where the value is verbatim. -/
theorem secret_of_environment {file : Option SourceFile} {env : Environment} {base : Config}
    (hbase : ofSources file env = .ok base) (hfree : ¬ env.Mentions "secret") (text : String) :
    ∃ config, ofSources file (Fields.insert env "EFFECTKIT_SECRET" text) = .ok config ∧
      config = { base with secret := Environment.rewritten text } ∧
      (config.secret = text ↔ Environment.Verbatim text) ∧
      ∀ (cookie : String) (w : World),
        (w.carryOut (((configHandler config.record).toLayer.apply
          (Program.validCookie cookie)).drive)).1 = .ok (.bool (cookie = config.secret)) := by
  refine ⟨_, ofSources_insert hbase hfree text, rfl, ?_, ?_⟩
  · exact Environment.rewritten_eq_self_iff text
  · exact drive_validCookie _

/-- A word is kept as the secret. -/
theorem secret_of_environment_of_word :
    ∃ config, ofSources none (Fields.insert [("EFFECTKIT_STORE__RETRIES", "4"), ("HOME", "/root")]
      "EFFECTKIT_SECRET" "FROM_ENV") = .ok config ∧ config.secret = "FROM_ENV" := by
  obtain ⟨config, hconfig, -, hsecret, -⟩ :=
    secret_of_environment ofSources_retries not_mentions_retries "FROM_ENV"
  have hword : Environment.rewritten "FROM_ENV" = "FROM_ENV" := by decide +kernel
  exact ⟨config, hconfig, hsecret.mpr ((Environment.rewritten_eq_self_iff _).mp hword)⟩

/-- A secret of digits loses the zeros in front: the cookie that it was meant for is rejected. -/
theorem secret_of_zeros_rejects_its_cookie :
    ∃ config, ofSources none [("EFFECTKIT_SECRET", "007")] = .ok config ∧ config.secret = "7" ∧
      (({} : World).carryOut (((configHandler config.record).toLayer.apply
        (Program.validCookie "007")).drive)).1 = .ok (.bool false) := by
  have hfree : ¬ Environment.Mentions [] "secret" := fun ⟨v, hv, _⟩ => absurd hv List.not_mem_nil
  have hsources := ofSources_insert ofSources_nothing hfree "007"
  rw [rewritten_zeros] at hsources
  exact ⟨_, hsources, rfl, drive_validCookie _ _ _⟩

end Config

end Effects
