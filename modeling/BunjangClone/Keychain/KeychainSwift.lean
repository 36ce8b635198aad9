import BunjangClone.Keychain.Security

/-!
# `KeychainSwift`

Each instance adds its prefix to the keys, and its access group to the queries. It sees the
items of that group, or of all groups, and only those of this device, or the synchronized ones
as well. A value is stored by deleting what the instance sees under the key and adding an item,
so a call that fails to add has already deleted.

Here the calls come one after another, and the lock is left out; `Keychain.Threads` is about
calls that interleave.
-/

namespace BunjangClone.Keychain

structure KeychainSwift where
  lastQueryParameters : Option Query := none
  lastResultCode : OSStatus := noErr
  keyPrefix : String := ""
  accessGroup : Option String := none
  synchronizable : Bool := false

variable {σ : Type} (security : Security σ)

namespace KeychainSwift

def keyWithPrefix (self : KeychainSwift) (key : String) : String := self.keyPrefix ++ key

def addAccessGroupWhenPresent (self : KeychainSwift) (items : Query) : Query :=
  match self.accessGroup with
  | none => items
  | some accessGroup => { items with accessGroup := some accessGroup }

def addSynchronizableIfRequired (self : KeychainSwift) (items : Query) (addingItems : Bool) :
    Query :=
  if self.synchronizable then
    { items with attrSynchronizable := some (if addingItems then .only else .any) }
  else items

/-- The query of a call that is not adding items. -/
def query (self : KeychainSwift) (items : Query) : Query :=
  self.addSynchronizableIfRequired (self.addAccessGroupWhenPresent items) false

def deleteNoLock (self : KeychainSwift) (key : String) (s : σ) : Bool × KeychainSwift × σ :=
  let query := self.query { attrAccount := some (self.keyWithPrefix key) }
  let (lastResultCode, s) := security.secItemDelete query s
  (lastResultCode = noErr,
    { self with lastQueryParameters := some query, lastResultCode := lastResultCode }, s)

/-- `set` of data. -/
def setData (self : KeychainSwift) (value : ByteArray) (key : String)
    (access : Option KeychainSwiftAccessOptions) (s : σ) : Bool × KeychainSwift × σ :=
  let (_, self, s) := self.deleteNoLock security key s
  let accessible := access.getD .accessibleWhenUnlocked
  let query := self.addSynchronizableIfRequired (self.addAccessGroupWhenPresent
    { attrAccount := some (self.keyWithPrefix key), valueData := some value,
      accessible := some accessible }) true
  let (lastResultCode, s) := security.secItemAdd query s
  (lastResultCode = noErr,
    { self with lastQueryParameters := some query, lastResultCode := lastResultCode }, s)

/-- Every text has an UTF-8 encoding. -/
def set (self : KeychainSwift) (value : String) (key : String)
    (access : Option KeychainSwiftAccessOptions) (s : σ) : Bool × KeychainSwift × σ :=
  self.setData security value.toUTF8 key access s

def bytes (value : Bool) : ByteArray := ⟨if value then #[1] else #[0]⟩

/-- `set` of a boolean. -/
def setBool (self : KeychainSwift) (value : Bool) (key : String)
    (access : Option KeychainSwiftAccessOptions) (s : σ) : Bool × KeychainSwift × σ :=
  self.setData security (bytes value) key access s

/-- A search changes nothing but the instance. -/
def getData (self : KeychainSwift) (key : String) (asReference : Bool) (s : σ) :
    Option ByteArray × KeychainSwift :=
  let items : Query := { attrAccount := some (self.keyWithPrefix key), matchLimit := some .one }
  let query := self.query
    (if asReference then { items with returnReference := true }
      else { items with returnData := true })
  let (lastResultCode, result) := security.secItemCopyMatching query s
  let self := { self with lastQueryParameters := some query, lastResultCode := lastResultCode }
  if lastResultCode = noErr then
    match result with
    | some (.data data) => (some data, self)
    | _ => (none, self)
  else (none, self)

def get (self : KeychainSwift) (key : String) (s : σ) : Option String × KeychainSwift :=
  match self.getData security key false s with
  | (some data, self) =>
      match String.fromUTF8? data with
      | some currentString => (some currentString, self)
      | none => (none, { self with lastResultCode := errSecInvalidEncoding })
  | (none, self) => (none, self)

def getBool (self : KeychainSwift) (key : String) (s : σ) : Option Bool × KeychainSwift :=
  match self.getData security key false s with
  | (some data, self) => (data.data[0]?.map (· == 1), self)
  | (none, self) => (none, self)

def delete (self : KeychainSwift) (key : String) (s : σ) : Bool × KeychainSwift × σ :=
  self.deleteNoLock security key s

/-- The result code is a local one, so `lastResultCode` stays that of the call before, though its
comment says otherwise. The query is not kept. -/
def allKeys (self : KeychainSwift) (s : σ) : List String :=
  let query := self.query
    { returnData := true, returnAttributes := true, returnReference := true,
      matchLimit := some .all }
  let (lastResultCode, result) := security.secItemCopyMatching query s
  if lastResultCode = noErr then
    match result with
    | some (.attributes accounts) => accounts.filterMap id
    | _ => []
  else []

/-- The prefix is not used. -/
def clear (self : KeychainSwift) (s : σ) : Bool × KeychainSwift × σ :=
  let query := self.query {}
  let (lastResultCode, s) := security.secItemDelete query s
  (lastResultCode = noErr,
    { self with lastQueryParameters := some query, lastResultCode := lastResultCode }, s)

/-! ## What an instance sees -/

def sees (self : KeychainSwift) (item : Item) : Bool :=
  self.accessGroup.all (· = item.accessGroup) &&
    (self.synchronizable || !item.attrSynchronizable)

/-- The data of the items that the instance sees under an account. -/
def contents (self : KeychainSwift) (account : String) (s : σ) : Multiset ByteArray :=
  ((security.items s).filter fun item => item.attrAccount = account ∧ self.sees item = true).map
    Item.valueData

/-- The instances see the same items. Prefixes, and the results of earlier calls, may differ. -/
structure SameScope (keychain other : KeychainSwift) : Prop where
  accessGroup : keychain.accessGroup = other.accessGroup
  synchronizable : keychain.synchronizable = other.synchronizable

theorem SameScope.contents {security : Security σ} {self other : KeychainSwift}
    (h : self.SameScope other) : self.contents security = other.contents security := by
  have hsees : self.sees = other.sees := by
    funext item
    rw [sees, sees, h.accessGroup, h.synchronizable]
  funext account s
  rw [KeychainSwift.contents, KeychainSwift.contents, hsees]

variable {security} {self : KeychainSwift} {s : σ} {key account : String}

theorem selects_query (self : KeychainSwift) {items : Query} (hgroup : items.accessGroup = none)
    (hsynchronizable : items.attrSynchronizable = none) (item : Item) :
    (self.query items).selects item =
      (items.attrAccount.all (· = item.attrAccount) && self.sees item) := by
  cases hself : self.accessGroup <;> cases hsync : self.synchronizable <;>
    simp [query, addAccessGroupWhenPresent, addSynchronizableIfRequired, Query.selects, sees,
      Synchronizable.allows, hself, hsync, hgroup, hsynchronizable, Bool.and_assoc]

/-! ## What the calls do -/

/-- A deletion clears what the instance sees under the account, or under every account. -/
theorem contents_secItemDelete (hdocumented : security.Documented) {items : Query}
    (hgroup : items.accessGroup = none) (hsynchronizable : items.attrSynchronizable = none)
    (hthrough : security.GoesThrough (self.query items) s) (account : String) :
    self.contents security account (security.secItemDelete (self.query items) s).2 =
      if items.attrAccount.all (· = account) then 0 else self.contents security account s := by
  rw [contents, hdocumented.items_delete hthrough, Multiset.filter_filter]
  split
  · rename_i hall
    rw [Multiset.map_eq_zero, Multiset.filter_eq_nil]
    rintro item _ ⟨⟨haccount, hsees⟩, hkept⟩
    rw [selects_query self hgroup hsynchronizable, haccount, hall, hsees] at hkept
    cases hkept
  · rename_i hall
    congr 1
    apply Multiset.filter_congr
    intro item _
    constructor
    · exact And.left
    · rintro ⟨haccount, hsees⟩
      refine ⟨⟨haccount, hsees⟩, ?_⟩
      rw [selects_query self hgroup hsynchronizable, haccount, Bool.eq_false_iff.mpr hall,
        Bool.false_and]

theorem contents_deleteNoLock (hdocumented : security.Documented)
    (hthrough : security.GoesThrough
      (self.query { attrAccount := some (self.keyWithPrefix key) }) s)
    (account : String) :
    self.contents security account (self.deleteNoLock security key s).2.2 =
      if self.keyWithPrefix key = account then 0 else self.contents security account s := by
  have hdelete := contents_secItemDelete hdocumented rfl rfl hthrough account
  simpa [deleteNoLock] using hdelete

theorem contents_clear (hdocumented : security.Documented)
    (hthrough : security.GoesThrough (self.query {}) s) (account : String) :
    self.contents security account (self.clear security s).2.2 = 0 :=
  contents_secItemDelete hdocumented rfl rfl hthrough account

/-- The query of `setData` that adds. -/
def addition (self : KeychainSwift) (value : ByteArray) (key : String)
    (access : Option KeychainSwiftAccessOptions) : Query :=
  self.addSynchronizableIfRequired (self.addAccessGroupWhenPresent
    { attrAccount := some (self.keyWithPrefix key), valueData := some value,
      accessible := some (access.getD .accessibleWhenUnlocked) }) true

theorem setData_eq (security : Security σ) (self : KeychainSwift) (value : ByteArray)
    (key : String) (access : Option KeychainSwiftAccessOptions) (s : σ) :
    ((self.setData security value key access s).1,
        (self.setData security value key access s).2.2) =
      (decide ((security.secItemAdd (self.addition value key access)
          (self.deleteNoLock security key s).2.2).1 = noErr),
        (security.secItemAdd (self.addition value key access)
          (self.deleteNoLock security key s).2.2).2) := rfl

/-- The item is added under the key, in the group of the instance, if it has one. -/
theorem added_addition (self : KeychainSwift) (value : ByteArray) (key : String)
    (access : Option KeychainSwiftAccessOptions) :
    security.added (self.addition value key access) =
      ⟨self.keyWithPrefix key, self.accessGroup.getD security.defaultGroup, self.synchronizable,
        access.getD .accessibleWhenUnlocked, value⟩ := by
  cases hself : self.accessGroup <;> cases hsync : self.synchronizable <;>
    simp [addition, addSynchronizableIfRequired, addAccessGroupWhenPresent, Security.added,
      Query.added, hself, hsync]

/-- What the instance adds it sees, and so is everything it might clash with. -/
theorem sees_of_sameKey {value : ByteArray} {access : Option KeychainSwiftAccessOptions}
    {item : Item} (h : item.SameKey (security.added (self.addition value key access))) :
    item.attrAccount = self.keyWithPrefix key ∧ self.sees item = true := by
  rw [added_addition] at h
  obtain ⟨haccount, hgroup, hsynchronizable⟩ := h
  refine ⟨haccount, ?_⟩
  rw [sees, hgroup, hsynchronizable]
  cases self.accessGroup <;> cases self.synchronizable <;> simp

/-- What could not be added is gone all the same. -/
theorem contents_setData (hdocumented : security.Documented)
    (hthrough : security.GoesThrough
      (self.query { attrAccount := some (self.keyWithPrefix key) }) s)
    (value : ByteArray) (access : Option KeychainSwiftAccessOptions) (account : String) :
    self.contents security account (self.setData security value key access s).2.2 =
      if self.keyWithPrefix key = account then
        if (self.setData security value key access s).1 then {value} else 0
      else self.contents security account s := by
  have hdelete := contents_deleteNoLock hdocumented hthrough account
  obtain ⟨hsuccess, hafter⟩ := Prod.mk.inj (setData_eq security self value key access s)
  rw [hsuccess, hafter]
  by_cases hadded : (security.secItemAdd (self.addition value key access)
      (self.deleteNoLock security key s).2.2).1 = noErr
  · let seen : Item → Prop := fun item => item.attrAccount = account ∧ self.sees item = true
    have hnew : self.keyWithPrefix key = account ↔
        seen (security.added (self.addition value key access)) := by
      show _ ↔ _ ∧ _
      have hsame : (security.added (self.addition value key access)).SameKey
          (security.added (self.addition value key access)) := ⟨rfl, rfl, rfl⟩
      obtain ⟨haccount, hsees⟩ := sees_of_sameKey hsame
      rw [haccount, hsees]
      simp
    rw [contents, hdocumented.add _ _ hadded, decide_eq_true hadded]
    by_cases haccount : self.keyWithPrefix key = account
    · rw [if_pos haccount] at hdelete
      rw [Multiset.filter_cons_of_pos (p := seen) _ (hnew.mp haccount), Multiset.map_cons,
        if_pos haccount, added_addition]
      show value ::ₘ self.contents security account (self.deleteNoLock security key s).2.2 = {value}
      rw [hdelete]
      rfl
    · rw [if_neg haccount] at hdelete
      rw [Multiset.filter_cons_of_neg (p := seen) _ (fun hseen => haccount (hnew.mpr hseen)),
        if_neg haccount]
      exact hdelete
  · rw [contents, hdocumented.not_add _ _ hadded, decide_eq_false hadded]
    exact hdelete

/-- The deletion makes room for the item. -/
theorem success_setData (hworks : security.Works) (value : ByteArray)
    (access : Option KeychainSwiftAccessOptions) :
    (self.setData security value key access s).1 = true := by
  rw [(Prod.mk.inj (setData_eq security self value key access s)).1]
  apply decide_eq_true
  apply hworks.adds
  intro item hmem hsame
  have hcleared : self.contents security (self.keyWithPrefix key)
      (self.deleteNoLock security key s).2.2 = 0 := by
    rw [contents_deleteNoLock hworks.toDocumented (hworks.deletes _ s), if_pos rfl]
  rw [contents, Multiset.map_eq_zero, Multiset.filter_eq_nil] at hcleared
  exact hcleared item hmem (sees_of_sameKey hsame)

/-! ## What a search finds -/

/-- The query of `getData` for data. -/
def search (self : KeychainSwift) (key : String) : Query :=
  self.query
    { attrAccount := some (self.keyWithPrefix key), matchLimit := some .one, returnData := true }

theorem getData_of_error (h : (security.secItemCopyMatching (self.search key) s).1 ≠ noErr) :
    (self.getData security key false s).1 = none := by
  rw [search] at h
  simp [getData, h]

/-- A search without an error finds one of the items the instance sees. -/
theorem getData_of_noErr (hdocumented : security.Documented)
    (h : (security.secItemCopyMatching (self.search key) s).1 = noErr) :
    ∃ data ∈ self.contents security (self.keyWithPrefix key) s,
      (self.getData security key false s).1 = some data := by
  have hattributes : (self.search key).returnData = true ∧
      (self.search key).matchLimit = some .one ∧ (self.search key).returnReference = false := by
    cases hself : self.accessGroup <;> cases hsync : self.synchronizable <;>
      simp [search, query, addSynchronizableIfRequired, addAccessGroupWhenPresent, hself, hsync]
  obtain ⟨item, hmem, hselects, hresult⟩ :=
    hdocumented.copy _ s hattributes.1 hattributes.2.1 hattributes.2.2 h
  refine ⟨item.valueData, ?_, ?_⟩
  · rw [search, selects_query self rfl rfl, Bool.and_eq_true] at hselects
    have haccount : item.attrAccount = self.keyWithPrefix key := by
      simpa [eq_comm] using hselects.1
    apply Multiset.mem_map_of_mem
    exact Multiset.mem_filter.mpr ⟨hmem, haccount, hselects.2⟩
  · rw [search] at h hresult
    simp [getData, h, hresult]

theorem mem_contents_of_getData (hdocumented : security.Documented) {data : ByteArray}
    (h : (self.getData security key false s).1 = some data) :
    data ∈ self.contents security (self.keyWithPrefix key) s := by
  by_cases hok : (security.secItemCopyMatching (self.search key) s).1 = noErr
  · obtain ⟨found, hmem, hfound⟩ := getData_of_noErr hdocumented hok
    obtain rfl := Option.some.inj (hfound.symm.trans h)
    exact hmem
  · rw [getData_of_error hok] at h
    cases h

/-- A search that fails only for want of items tells that there are none. -/
theorem contents_of_getData (hdocumented : security.Documented)
    (hcopies : ∀ query, (security.secItemCopyMatching query s).1 = noErr ∨
      (security.secItemCopyMatching query s).1 = errSecItemNotFound)
    (h : (self.getData security key false s).1 = none) :
    self.contents security (self.keyWithPrefix key) s = 0 := by
  obtain hok | hmissing := hcopies (self.search key)
  · obtain ⟨data, _, hfound⟩ := getData_of_noErr hdocumented hok
    rw [hfound] at h
    cases h
  · rw [contents, Multiset.map_eq_zero, Multiset.filter_eq_nil]
    rintro item hmem ⟨haccount, hsees⟩
    have hnot := hdocumented.copy_notFound _ s hmissing item hmem
    rw [search, selects_query self rfl rfl, hsees] at hnot
    simp [haccount] at hnot

end KeychainSwift

end BunjangClone.Keychain
