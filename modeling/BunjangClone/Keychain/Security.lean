import Mathlib

/-!
# The keychain of the system

The keychain holds items, each under an account, in an access group, and either on this device
alone or synchronized with others. A query says which items a call is about, and each of the
calls reports a status. The calls are a parameter; `Documented` is what is known of them
whatever they report, and `Works` what they report while the device is unlocked.
-/

namespace BunjangClone.Keychain

abbrev OSStatus := Int32

def noErr : OSStatus := 0
def errSecItemNotFound : OSStatus := -25300
def errSecDuplicateItem : OSStatus := -25299
def errSecInvalidEncoding : OSStatus := -67853

inductive KeychainSwiftAccessOptions where
  | accessibleWhenUnlocked
  | accessibleWhenUnlockedThisDeviceOnly
  | accessibleAfterFirstUnlock
  | accessibleAfterFirstUnlockThisDeviceOnly
  | accessibleWhenPasscodeSetThisDeviceOnly
deriving DecidableEq, Repr

inductive MatchLimit where
  | one
  | all
deriving DecidableEq, Repr

/-- What a query says of synchronized items: `true`, or `kSecAttrSynchronizableAny`. -/
inductive Synchronizable where
  | only
  | any
deriving DecidableEq, Repr

/-- A dictionary of the attributes that are used. The class is that of generic passwords. -/
structure Query where
  attrAccount : Option String := none
  valueData : Option ByteArray := none
  accessible : Option KeychainSwiftAccessOptions := none
  matchLimit : Option MatchLimit := none
  returnData : Bool := false
  returnReference : Bool := false
  returnAttributes : Bool := false
  accessGroup : Option String := none
  attrSynchronizable : Option Synchronizable := none
deriving DecidableEq

structure Item where
  attrAccount : String
  accessGroup : String
  attrSynchronizable : Bool
  accessible : KeychainSwiftAccessOptions
  valueData : ByteArray
deriving DecidableEq

/-- Whether the query is about synchronized items, or about those that are not. -/
def Synchronizable.allows : Option Synchronizable → (attrSynchronizable : Bool) → Bool
  | none, attrSynchronizable => !attrSynchronizable
  | some .only, attrSynchronizable => attrSynchronizable
  | some .any, _ => true

/-- Whether the call is about the item. -/
def Query.selects (query : Query) (item : Item) : Bool :=
  query.attrAccount.all (· = item.attrAccount) && query.accessGroup.all (· = item.accessGroup) &&
    Synchronizable.allows query.attrSynchronizable item.attrSynchronizable

/-- The item that the query adds. -/
def Query.added (query : Query) (defaultGroup : String) : Item where
  attrAccount := query.attrAccount.getD ""
  accessGroup := query.accessGroup.getD defaultGroup
  attrSynchronizable := query.attrSynchronizable = some .only
  accessible := query.accessible.getD .accessibleWhenUnlocked
  valueData := query.valueData.getD .empty

/-- The items stand in each other's way. -/
def Item.SameKey (item other : Item) : Prop :=
  item.attrAccount = other.attrAccount ∧ item.accessGroup = other.accessGroup ∧
    item.attrSynchronizable = other.attrSynchronizable

instance (item other : Item) : Decidable (item.SameKey other) :=
  inferInstanceAs (Decidable (_ ∧ _ ∧ _))

/-- What a search results in: the data of an item, or the attributes of several, of which the
account is used. -/
inductive AnyObject where
  | data (data : ByteArray)
  | attributes (accounts : List (Option String))
deriving DecidableEq

/-- The calls, and the items the app can reach. -/
structure Security (σ : Type) where
  items : σ → Multiset Item
  defaultGroup : String
  secItemAdd : Query → σ → OSStatus × σ
  secItemCopyMatching : Query → σ → OSStatus × Option AnyObject
  secItemDelete : Query → σ → OSStatus × σ

namespace Security

variable {σ : Type}

def added (security : Security σ) (query : Query) : Item := query.added security.defaultGroup

/-- What the calls do when they report no error, and that they do nothing when they do. -/
structure Documented (security : Security σ) : Prop where
  add : ∀ query s, (security.secItemAdd query s).1 = noErr →
    security.items (security.secItemAdd query s).2 = security.added query ::ₘ security.items s
  not_add : ∀ query s, (security.secItemAdd query s).1 ≠ noErr →
    security.items (security.secItemAdd query s).2 = security.items s
  delete : ∀ query s, (security.secItemDelete query s).1 = noErr →
    security.items (security.secItemDelete query s).2 =
      (security.items s).filter (query.selects · = false)
  not_delete : ∀ query s, (security.secItemDelete query s).1 ≠ noErr →
    security.items (security.secItemDelete query s).2 = security.items s
  delete_notFound : ∀ query s, (security.secItemDelete query s).1 = errSecItemNotFound →
    ∀ item ∈ security.items s, query.selects item = false
  copy : ∀ query s, query.returnData = true → query.matchLimit = some .one →
    query.returnReference = false → (security.secItemCopyMatching query s).1 = noErr →
      ∃ item ∈ security.items s, query.selects item = true ∧
        (security.secItemCopyMatching query s).2 = some (.data item.valueData)
  copyAll : ∀ query s, query.returnAttributes = true → query.matchLimit = some .all →
    (security.secItemCopyMatching query s).1 = noErr → ∃ accounts,
      (security.secItemCopyMatching query s).2 = some (.attributes accounts) ∧
        ∀ account, some account ∈ accounts ↔
          ∃ item ∈ security.items s, query.selects item = true ∧ item.attrAccount = account
  copy_notFound : ∀ query s, (security.secItemCopyMatching query s).1 = errSecItemNotFound →
    ∀ item ∈ security.items s, query.selects item = false

/-- The deletion fails only for want of items. -/
def GoesThrough (security : Security σ) (query : Query) (s : σ) : Prop :=
  (security.secItemDelete query s).1 = noErr ∨
    (security.secItemDelete query s).1 = errSecItemNotFound

/-- No call fails but for an item that is not there, or is there already. -/
structure Works (security : Security σ) : Prop extends security.Documented where
  adds : ∀ query s, (∀ item ∈ security.items s, ¬ item.SameKey (security.added query)) →
    (security.secItemAdd query s).1 = noErr
  deletes : ∀ query s, security.GoesThrough query s
  copies : ∀ query s, (security.secItemCopyMatching query s).1 = noErr ∨
    (security.secItemCopyMatching query s).1 = errSecItemNotFound

theorem Documented.items_delete {security : Security σ} (h : security.Documented) {query : Query}
    {s : σ} (hthrough : security.GoesThrough query s) :
    security.items (security.secItemDelete query s).2 =
      (security.items s).filter (query.selects · = false) := by
  obtain hok | hmissing := hthrough
  · exact h.delete query s hok
  · have herror : (security.secItemDelete query s).1 ≠ noErr := by
      rw [hmissing]
      decide
    rw [h.not_delete query s herror, Multiset.filter_eq_self.mpr]
    exact h.delete_notFound query s hmissing

end Security

/-! ## A keychain that works -/

/-- A list of items. Data are found by a search for one item, accounts by a search for all. -/
def listed : Security (List Item) where
  items s := s
  defaultGroup := ""
  secItemAdd query s :=
    if ∃ item ∈ s, item.SameKey (query.added "") then (errSecDuplicateItem, s)
    else (noErr, query.added "" :: s)
  secItemCopyMatching query s :=
    match s.filter query.selects with
    | [] => (errSecItemNotFound, none)
    | item :: rest =>
        if query.matchLimit = some .all then
          (noErr, some (.attributes ((item :: rest).map fun item => some item.attrAccount)))
        else (noErr, some (.data item.valueData))
  secItemDelete query s :=
    if ∃ item ∈ s, query.selects item = true then (noErr, s.filter (query.selects · = false))
    else (errSecItemNotFound, s)

theorem documented_listed : listed.Documented where
  add query s h := by
    simp only [listed] at h ⊢
    split at h
    · cases h
    · rename_i hnone
      rw [if_neg hnone]
      rfl
  not_add query s h := by
    simp only [listed] at h ⊢
    split at h
    · rename_i hsome
      rw [if_pos hsome]
    · exact absurd rfl h
  delete query s h := by
    simp only [listed] at h ⊢
    split at h
    · rename_i hsome
      rw [if_pos hsome]
      rfl
    · cases h
  not_delete query s h := by
    simp only [listed] at h ⊢
    split at h
    · exact absurd rfl h
    · rename_i hnone
      rw [if_neg hnone]
  delete_notFound query s h item hmem := by
    simp only [listed] at h
    split at h
    · cases h
    · rename_i hnone
      exact Bool.eq_false_iff.mpr fun hselects => hnone ⟨item, hmem, hselects⟩
  copy query s _ hone _ h := by
    simp only [listed] at h ⊢
    split at h
    · cases h
    · rename_i item rest hfilter
      have hmem : item ∈ s.filter query.selects := hfilter ▸ List.mem_cons_self
      exact ⟨item, List.mem_of_mem_filter hmem, (List.mem_filter.mp hmem).2, by simp [hone]⟩
  copyAll query s _ hall h := by
    simp only [listed] at h ⊢
    split at h
    · cases h
    · rename_i item rest hfilter
      refine ⟨(item :: rest).map fun item => some item.attrAccount, by simp [hall], ?_⟩
      intro account
      rw [← hfilter]
      simp [and_assoc]
  copy_notFound query s h item hmem := by
    simp only [listed] at h
    split at h
    · rename_i hfilter
      exact Bool.eq_false_iff.mpr (List.filter_eq_nil_iff.mp hfilter item hmem)
    · split at h <;> cases h

theorem works_listed : listed.Works := by
  refine ⟨documented_listed, fun query s h => ?_, fun query s => ?_, fun query s => ?_⟩
  · simp only [listed]
    rw [if_neg]
    rintro ⟨item, hmem, hsame⟩
    exact h item hmem hsame
  · simp only [listed, Security.GoesThrough]
    split
    · exact .inl rfl
    · exact .inr rfl
  · simp only [listed]
    split
    · exact .inr rfl
    · split <;> exact .inl rfl

end BunjangClone.Keychain
