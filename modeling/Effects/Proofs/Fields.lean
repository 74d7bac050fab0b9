import Mathlib.Data.Finmap
import Mathlib.Data.String.Basic
import Effects.Fields

/-!
# Fields are finite maps

What is bound after a name has been bound or freed, and that the names stay in strictly increasing
order. `Fields.Represents` ties fields to a finite map: the same names are bound to the same values,
and there are as many fields as names.

Names are ordered by their code points. The bytes of their UTF-8 forms give the same order
(`Text.bytes_lt_bytes`): of two different characters, the first byte that differs decides.
-/

namespace Effects

/-! ## Byte order -/

namespace Text

/-- The bytes of a text in UTF-8. -/
def bytes (text : String) : List UInt8 := text.toList.flatMap String.utf8EncodeChar

theorem toNat_ofNat_of_lt {n : Nat} (h : n < 256) : (UInt8.ofNat n).toNat = n :=
  UInt8.toNat_ofNat_of_lt' h

/-- The bytes of a smaller character are smaller, whatever comes after them. -/
theorem utf8EncodeChar_append_lt {c d : Char} (h : c < d) (s t : List UInt8) :
    String.utf8EncodeChar c ++ s < String.utf8EncodeChar d ++ t := by
  have hcd : c.val.toNat < d.val.toNat := h
  have hd : d.val.toNat < 1114112 := by rcases d.valid with h | h <;> omega
  -- the digits to the base 64 that are spread over the bytes
  have hdigits (n : Nat) (hn : n < 1114112) : n = 262144 * (n / 262144 % 8) +
      4096 * (n / 4096 % 64) + 64 * (n / 64 % 64) + n % 64 := by
    omega
  have hdigits_c := hdigits _ (hcd.trans hd)
  have hdigits_d := hdigits _ hd
  unfold String.utf8EncodeChar
  simp only
  split_ifs <;>
    simp (disch := omega) only [List.cons_append, List.cons_lt_cons_iff, UInt8.lt_iff_toNat_lt,
      ← UInt8.toNat_inj, toNat_ofNat_of_lt] <;>
    omega

theorem flatMap_lt_flatMap {s t : List Char} (h : s < t) :
    s.flatMap String.utf8EncodeChar < t.flatMap String.utf8EncodeChar := by
  induction t generalizing s with
  | nil => exact absurd h (List.not_lt_nil s)
  | cons d t ih =>
    cases s with
    | nil =>
      obtain ⟨byte, bytes, hbytes⟩ :=
        List.exists_cons_of_ne_nil (String.utf8EncodeChar_ne_nil (c := d))
      rw [List.flatMap_cons, hbytes]
      exact List.nil_lt_cons byte _
    | cons c s =>
      rw [List.flatMap_cons, List.flatMap_cons]
      rcases List.cons_lt_cons_iff.mp h with hcd | ⟨rfl, hst⟩
      · exact utf8EncodeChar_append_lt hcd _ _
      · exact List.append_left_lt (ih hst)

/-- The order of texts is the order of their bytes. -/
theorem bytes_lt_bytes {s t : String} (h : s < t) : bytes s < bytes t :=
  flatMap_lt_flatMap (String.lt_iff_toList_lt.mp h)

end Text

namespace Fields

variable {α : Type} {fields : Fields α} {name other : String} {value : α}

/-! ## What is bound -/

@[simp]
theorem get?_insert_self (fields : Fields α) (name : String) (value : α) :
    (fields.insert name value).get? name = some value := by
  induction fields with
  | nil => simp [insert, get?]
  | cons field rest ih =>
    obtain ⟨key, old⟩ := field
    rw [insert]
    split_ifs with hlt heq
    · simp [get?]
    · simp [get?]
    · rw [get?, if_neg (Ne.symm heq), ih]

theorem get?_insert_of_ne (h : other ≠ name) (fields : Fields α) (value : α) :
    (fields.insert name value).get? other = fields.get? other := by
  induction fields with
  | nil => simp [insert, get?, Ne.symm h]
  | cons field rest ih =>
    obtain ⟨key, old⟩ := field
    rw [insert]
    split_ifs with hlt heq
    · rw [get?, if_neg (Ne.symm h)]
    · subst heq
      rw [get?, get?, if_neg (Ne.symm h), if_neg (Ne.symm h)]
    · rw [get?, get?, ih]

theorem get?_erase_of_ne (h : other ≠ name) (fields : Fields α) :
    (fields.erase name).get? other = fields.get? other := by
  induction fields with
  | nil => rfl
  | cons field rest ih =>
    obtain ⟨key, old⟩ := field
    rw [erase]
    split_ifs with heq
    · subst heq
      rw [get?, if_neg (Ne.symm h)]
    · rw [get?, get?, ih]

theorem mem_names_iff : name ∈ fields.names ↔ (fields.get? name).isSome := by
  induction fields with
  | nil => simp [names, get?]
  | cons field rest ih =>
    obtain ⟨key, old⟩ := field
    have hnames : names ((key, old) :: rest) = key :: names rest := rfl
    rw [hnames, List.mem_cons, ih, get?]
    by_cases heq : key = name
    · simp [heq]
    · simp [heq, Ne.symm heq]

theorem mem_names_insert : other ∈ (fields.insert name value).names ↔
    other = name ∨ other ∈ fields.names := by
  rw [mem_names_iff, mem_names_iff]
  by_cases h : other = name
  · simp [h]
  · simp [get?_insert_of_ne h, h]

/-- It does not matter which of two names is bound first. -/
theorem insert_comm (h : name ≠ other) (fields : Fields α) (value otherValue : α) :
    (fields.insert name value).insert other otherValue =
      (fields.insert other otherValue).insert name value := by
  induction fields with
  | nil =>
    rcases lt_or_gt_of_ne h with hlt | hlt
    · simp [insert, hlt, hlt.not_gt, h.symm]
    · simp [insert, hlt, hlt.not_gt, h]
  | cons field rest ih =>
    obtain ⟨key, old⟩ := field
    -- where either name belongs with respect to the first one decides
    rcases lt_trichotomy name key with hname | hname | hname <;>
      rcases lt_trichotomy other key with hother | hother | hother <;>
      rcases lt_or_gt_of_ne h with hlt | hlt <;>
      grind [insert]

/-- A name that is not bound is bound in front of the greater names. -/
theorem exists_insert_eq_append (h : name ∉ fields.names) (value : α) :
    ∃ before after : Fields α, fields = before ++ after ∧
      fields.insert name value = before ++ (name, value) :: after := by
  induction fields with
  | nil => exact ⟨[], [], rfl, rfl⟩
  | cons field rest ih =>
    obtain ⟨key, old⟩ := field
    obtain ⟨hkey, hrest⟩ : name ≠ key ∧ name ∉ names rest := by
      simpa [names] using h
    by_cases hlt : name < key
    · exact ⟨[], (key, old) :: rest, rfl, by simp [insert, hlt]⟩
    · obtain ⟨before, after, hbefore, hinsert⟩ := ih hrest
      refine ⟨(key, old) :: before, after, by rw [hbefore]; rfl, ?_⟩
      rw [insert, if_neg hlt, if_neg hkey, hinsert, List.cons_append]

theorem ofList_concat (pairs : List (String × α)) (pair : String × α) :
    ofList (pairs ++ [pair]) = (ofList pairs).insert pair.1 pair.2 := by
  simp [ofList, List.foldl_append]

theorem mem_names_ofList {pairs : List (String × α)} :
    name ∈ (ofList pairs).names ↔ name ∈ pairs.map Prod.fst := by
  induction pairs using List.reverseRecOn with
  | nil => rfl
  | append_singleton pairs pair ih =>
    rw [ofList_concat, mem_names_insert, ih, List.map_append, List.mem_append]
    simp [or_comm]

/-- A binding that no later one replaces may as well be the last. -/
theorem ofList_append_cons {before after : List (String × α)} (h : name ∉ after.map Prod.fst) :
    ofList (before ++ (name, value) :: after) = (ofList (before ++ after)).insert name value := by
  induction after using List.reverseRecOn with
  | nil => rw [ofList_concat, List.append_nil]
  | append_singleton after pair ih =>
    obtain ⟨hafter, hpair⟩ : name ∉ after.map Prod.fst ∧ name ≠ pair.1 := by
      simpa [not_or] using h
    calc ofList (before ++ (name, value) :: (after ++ [pair]))
        = ofList ((before ++ (name, value) :: after) ++ [pair]) := by simp
      _ = ((ofList (before ++ after)).insert name value).insert pair.1 pair.2 := by
        rw [ofList_concat, ih hafter]
      _ = ((ofList (before ++ after)).insert pair.1 pair.2).insert name value :=
        insert_comm hpair _ _ _
      _ = (ofList (before ++ (after ++ [pair]))).insert name value := by
        rw [← ofList_concat, List.append_assoc]

/-! ## The order of the names -/

/-- The names are in strictly increasing order, so no name is bound twice. -/
def Ordered (fields : Fields α) : Prop := fields.names.Pairwise (· < ·)

theorem ordered_nil : Ordered ([] : Fields α) := .nil

theorem ordered_cons {rest : Fields α} :
    Ordered ((name, value) :: rest) ↔ (∀ other ∈ rest.names, name < other) ∧ rest.Ordered :=
  List.pairwise_cons

theorem Ordered.insert (h : fields.Ordered) (name : String) (value : α) :
    (fields.insert name value).Ordered := by
  induction fields with
  | nil => exact ordered_cons.mpr ⟨by simp [names], ordered_nil⟩
  | cons field rest ih =>
    obtain ⟨key, old⟩ := field
    obtain ⟨hkey, hrest⟩ := ordered_cons.mp h
    rw [Fields.insert]
    split_ifs with hlt heq
    · refine ordered_cons.mpr ⟨fun other hother => ?_, h⟩
      rcases List.mem_cons.mp hother with rfl | hlater
      · exact hlt
      · exact hlt.trans (hkey other hlater)
    · subst heq
      exact ordered_cons.mpr ⟨hkey, hrest⟩
    · refine ordered_cons.mpr ⟨fun other hother => ?_, ih hrest⟩
      rcases mem_names_insert.mp hother with rfl | hlater
      · exact lt_of_le_of_ne (not_lt.mp hlt) (Ne.symm heq)
      · exact hkey other hlater

theorem names_erase_sublist (fields : Fields α) (name : String) :
    (fields.erase name).names.Sublist fields.names := by
  induction fields with
  | nil => exact .slnil
  | cons field rest ih =>
    obtain ⟨key, old⟩ := field
    rw [erase]
    split_ifs with heq
    · exact List.sublist_cons_self _ _
    · exact ih.cons_cons key

theorem Ordered.erase (h : fields.Ordered) (name : String) : (fields.erase name).Ordered :=
  List.Pairwise.sublist (names_erase_sublist fields name) h

theorem Ordered.get?_erase_self (h : fields.Ordered) (name : String) :
    (fields.erase name).get? name = none := by
  induction fields with
  | nil => rfl
  | cons field rest ih =>
    obtain ⟨key, old⟩ := field
    obtain ⟨hkey, hrest⟩ := ordered_cons.mp h
    rw [Fields.erase]
    split_ifs with heq
    · subst heq
      have hfree : key ∉ names rest := fun hmem => lt_irrefl key (hkey key hmem)
      rwa [mem_names_iff, Bool.not_eq_true, Option.isSome_eq_false_iff, Option.isNone_iff_eq_none]
        at hfree
    · rw [get?, if_neg heq, ih hrest]

/-! ## Finite maps -/

/-- The fields are a finite map, written down in order. -/
structure Represents (fields : Fields α) (m : Finmap fun _ : String => α) : Prop where
  /-- The names are in order. -/
  ordered : fields.Ordered
  /-- The same names are bound, and to the same values. -/
  get?_eq : ∀ name, fields.get? name = m.lookup name

namespace Represents

variable {m : Finmap fun _ : String => α}

theorem nil : Represents ([] : Fields α) ∅ := ⟨ordered_nil, fun _ => rfl⟩

theorem insert (h : fields.Represents m) (name : String) (value : α) :
    (fields.insert name value).Represents (m.insert name value) where
  ordered := h.ordered.insert name value
  get?_eq other := by
    by_cases hother : other = name
    · subst hother
      rw [get?_insert_self, Finmap.lookup_insert]
    · rw [get?_insert_of_ne hother, Finmap.lookup_insert_of_ne _ hother, h.get?_eq]

theorem erase (h : fields.Represents m) (name : String) :
    (fields.erase name).Represents (m.erase name) where
  ordered := h.ordered.erase name
  get?_eq other := by
    by_cases hother : other = name
    · subst hother
      rw [h.ordered.get?_erase_self, Finmap.lookup_erase]
    · rw [get?_erase_of_ne hother, Finmap.lookup_erase_ne hother, h.get?_eq]

theorem mem_names (h : fields.Represents m) : name ∈ fields.names ↔ name ∈ m := by
  rw [mem_names_iff, h.get?_eq, Finmap.lookup_isSome]

/-- There are as many fields as names that are bound. -/
theorem length_eq (h : fields.Represents m) : fields.length = m.keys.card := by
  have hkeys : fields.names.toFinset = m.keys := by
    ext name
    rw [List.mem_toFinset, h.mem_names, Finmap.mem_keys]
  have hnodup : fields.names.Nodup := h.ordered.imp fun hlt => ne_of_lt hlt
  rw [← hkeys, List.toFinset_card_of_nodup hnodup, names, List.length_map]

end Represents

end Fields

end Effects
