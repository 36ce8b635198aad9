import BunjangClone.Keychain.KeychainSwift
import BunjangClone.Reactive.Machine

/-!
# Histories of a keychain

Any number of instances share one keychain. A history lists their calls, each with what it
returned. If the instances see the same items and no deletion fails, what lies under an account
can be told from the history alone: it is what was stored last, and nothing after a deletion or
a call that failed to store, which has deleted what it was to replace.
-/

namespace BunjangClone.Keychain

open Reactive

inductive Operation where
  | set (value key : String) (access : Option KeychainSwiftAccessOptions)
  | setData (value : ByteArray) (key : String) (access : Option KeychainSwiftAccessOptions)
  | setBool (value : Bool) (key : String) (access : Option KeychainSwiftAccessOptions)
  | get (key : String)
  | getData (key : String) (asReference : Bool)
  | getBool (key : String)
  | delete (key : String)
  | allKeys
  | clear
deriving DecidableEq

inductive Returned where
  | success (success : Bool)
  | string (string : Option String)
  | data (data : Option ByteArray)
  | bool (bool : Option Bool)
  | keys (keys : List String)
deriving DecidableEq

structure Call where
  keychain : KeychainSwift
  operation : Operation
  returned : Returned

variable {σ : Type} (security : Security σ)

def KeychainSwift.perform (self : KeychainSwift) (s : σ) : Operation → Returned × σ
  | .set value key access =>
      let (success, _, s) := self.set security value key access s
      (.success success, s)
  | .setData value key access =>
      let (success, _, s) := self.setData security value key access s
      (.success success, s)
  | .setBool value key access =>
      let (success, _, s) := self.setBool security value key access s
      (.success success, s)
  | .get key => (.string (self.get security key s).1, s)
  | .getData key asReference => (.data (self.getData security key asReference s).1, s)
  | .getBool key => (.bool (self.getBool security key s).1, s)
  | .delete key =>
      let (success, _, s) := self.delete security key s
      (.success success, s)
  | .allKeys => (.keys (self.allKeys security s), s)
  | .clear =>
      let (success, _, s) := self.clear security s
      (.success success, s)

def step (s : σ) (call : Call) : Option σ :=
  let (returned, s) := call.keychain.perform security s call.operation
  if returned = call.returned then some s else none

def keychains : Machine σ Call := ⟨step security⟩

namespace Call

/-- The deletion a call makes, of the items under its key or of all. -/
def deletion (call : Call) : Option Query :=
  match call.operation with
  | .set _ key _ | .setData _ key _ | .setBool _ key _ | .delete key =>
      some (call.keychain.query { attrAccount := some (call.keychain.keyWithPrefix key) })
  | .clear => some (call.keychain.query {})
  | .get _ | .getData _ _ | .getBool _ | .allKeys => none

/-- What a call that stores under `key` leaves under `account`. -/
def stores (call : Call) (key : String) (value : ByteArray) (account : String) :
    Option (Multiset ByteArray) :=
  if call.keychain.keyWithPrefix key = account then
    some (if call.returned = .success true then {value} else 0)
  else none

/-- What a call writes under an account. -/
def writes (account : String) (call : Call) : Option (Multiset ByteArray) :=
  match call.operation with
  | .set value key _ => call.stores key value.toUTF8 account
  | .setData value key _ => call.stores key value account
  | .setBool value key _ => call.stores key (KeychainSwift.bytes value) account
  | .delete key => if call.keychain.keyWithPrefix key = account then some 0 else none
  | .clear => some 0
  | .get _ | .getData _ _ | .getBool _ | .allKeys => none

end Call

/-- The instance of the call sees what `keychain` sees, and its deletion does not fail. -/
structure Regular (keychain : KeychainSwift) (s : σ) (call : Call) : Prop where
  scope : call.keychain.SameScope keychain
  deletion : ∀ query, call.deletion = some query → security.GoesThrough query s

/-- What was written last under an account, or lay there before. -/
def lastWritten (keychain : KeychainSwift) (s : σ) (calls : List Call) (account : String) :
    Multiset ByteArray :=
  (calls.filterMap (Call.writes account)).getLast?.getD (keychain.contents security account s)

/-- What the history says of the keychain it leads to. -/
structure Told (keychain : KeychainSwift) (s : σ) (calls : List Call) (t : σ) : Prop where
  contents : ∀ account, keychain.contents security account t =
    lastWritten security keychain s calls account
  get : ∀ (self : KeychainSwift) key text, self.SameScope keychain →
    (self.get security key t).1 = some text →
      ∃ data ∈ lastWritten security keychain s calls (self.keyWithPrefix key),
        String.fromUTF8? data = some text
  allKeys : ∀ self : KeychainSwift, self.SameScope keychain → ∀ account ∈ self.allKeys security t,
    lastWritten security keychain s calls account ≠ 0

variable {security} {keychain self : KeychainSwift} {s t : σ} {call : Call} {calls : List Call}

/-! ## One call -/

theorem step_eq_some_iff : (keychains security).step s call = some t ↔
    call.returned = (call.keychain.perform security s call.operation).1 ∧
      t = (call.keychain.perform security s call.operation).2 := by
  show step security s call = some t ↔ _
  rw [step]
  simp [eq_comm]

theorem contents_stores {key : String} {value : ByteArray}
    {access : Option KeychainSwiftAccessOptions} (hdocumented : security.Documented)
    (hthrough : security.GoesThrough
      (call.keychain.query { attrAccount := some (call.keychain.keyWithPrefix key) }) s)
    (hreturned : call.returned =
      .success (call.keychain.setData security value key access s).1) (account : String) :
    call.keychain.contents security account
        (call.keychain.setData security value key access s).2.2 =
      (call.stores key value account).getD (call.keychain.contents security account s) := by
  rw [KeychainSwift.contents_setData hdocumented hthrough, Call.stores, hreturned]
  simp only [Returned.success.injEq]
  split <;> rfl

/-- Each call leaves what it writes, and nothing else changes. -/
theorem contents_step (hdocumented : security.Documented)
    (hregular : Regular security keychain s call)
    (hstep : (keychains security).step s call = some t) (account : String) :
    keychain.contents security account t =
      (call.writes account).getD (keychain.contents security account s) := by
  obtain ⟨hreturned, rfl⟩ := step_eq_some_iff.mp hstep
  rw [← hregular.scope.contents]
  have hdeletion := hregular.deletion
  rcases call with ⟨self, operation, returned⟩
  cases operation with
  | set value key access => exact contents_stores hdocumented (hdeletion _ rfl) hreturned account
  | setData value key access =>
      exact contents_stores hdocumented (hdeletion _ rfl) hreturned account
  | setBool value key access =>
      exact contents_stores hdocumented (hdeletion _ rfl) hreturned account
  | delete key =>
      have hdeleted := KeychainSwift.contents_deleteNoLock hdocumented (hdeletion _ rfl) account
      rw [Call.writes]
      simp only
      split
      · rename_i haccount
        rw [if_pos haccount] at hdeleted
        exact hdeleted
      · rename_i haccount
        rw [if_neg haccount] at hdeleted
        exact hdeleted
  | clear => exact KeychainSwift.contents_clear hdocumented (hdeletion _ rfl) account
  | _ => rfl

/-! ## Reading -/

theorem get_eq (key : String) :
    (self.get security key s).1 = (self.getData security key false s).1.bind String.fromUTF8? := by
  rw [KeychainSwift.get]
  rcases self.getData security key false s with ⟨_ | data, keychain⟩
  · rfl
  · cases htext : String.fromUTF8? data <;> simp [htext]

/-- On a keychain that works, the text of the only item under a key is read. -/
theorem get_of_contents (hworks : security.Works) {key : String} {data : ByteArray}
    (h : self.contents security (self.keyWithPrefix key) s = {data}) :
    (self.get security key s).1 = String.fromUTF8? data := by
  rw [get_eq]
  cases hdata : (self.getData security key false s).1 with
  | none =>
      rw [KeychainSwift.contents_of_getData hworks.toDocumented
        (fun query => hworks.copies query s) hdata] at h
      cases Multiset.singleton_ne_zero data h.symm
  | some found =>
      have hmem := KeychainSwift.mem_contents_of_getData hworks.toDocumented hdata
      rw [h, Multiset.mem_singleton] at hmem
      rw [hmem]
      rfl

theorem get_of_cleared (hdocumented : security.Documented) {key : String}
    (h : self.contents security (self.keyWithPrefix key) s = 0) :
    (self.get security key s).1 = none := by
  rw [get_eq]
  cases hdata : (self.getData security key false s).1 with
  | none => rfl
  | some found =>
      have hmem := KeychainSwift.mem_contents_of_getData hdocumented hdata
      rw [h] at hmem
      cases Multiset.notMem_zero found hmem

theorem contents_of_mem_allKeys (hdocumented : security.Documented) {account : String}
    (h : account ∈ self.allKeys security s) : self.contents security account s ≠ 0 := by
  let items : Query := {
    returnData := true, returnAttributes := true, returnReference := true,
    matchLimit := some .all }
  have hattributes : (self.query items).returnAttributes = true ∧
      (self.query items).matchLimit = some .all := by
    cases hself : self.accessGroup <;> cases hsync : self.synchronizable <;>
      simp [KeychainSwift.query, items, KeychainSwift.addSynchronizableIfRequired,
        KeychainSwift.addAccessGroupWhenPresent, hself, hsync]
  by_cases hok : (security.secItemCopyMatching (self.query items) s).1 = noErr
  · obtain ⟨accounts, hresult, haccounts⟩ :=
      hdocumented.copyAll _ s hattributes.1 hattributes.2 hok
    have hmem : some account ∈ accounts := by
      simpa [KeychainSwift.allKeys, items, hok, hresult] using h
    obtain ⟨item, hitem, hselects, rfl⟩ := (haccounts account).mp hmem
    rw [KeychainSwift.selects_query self rfl rfl, Bool.and_eq_true] at hselects
    have hseen : item.valueData ∈ self.contents security item.attrAccount s :=
      Multiset.mem_map_of_mem _ (Multiset.mem_filter.mpr ⟨hitem, rfl, hselects.2⟩)
    exact fun hempty => Multiset.notMem_zero _ (hempty ▸ hseen)
  · simp [KeychainSwift.allKeys, items, hok] at h

/-! ## Histories -/

/-- In every history of instances that see the same items, what lies under an account is what
was written last, a text is read only where it was, and the keys are of accounts that were not
cleared. -/
theorem told_of_run (hdocumented : security.Documented)
    (hregular : (keychains security).Meets (Regular security keychain) s calls)
    (h : (keychains security).run s calls = some t) : Told security keychain s calls t := by
  have hcontents : ∀ account, keychain.contents security account t =
      lastWritten security keychain s calls account := by
    intro account
    refine Machine.last_write_of_meets (keychain.contents security account) (Call.writes account)
      ?_ hregular h
    exact fun u call v hregular hstep => contents_step hdocumented hregular hstep account
  refine ⟨hcontents, fun self key text hscope htext => ?_, fun self hscope account hmem => ?_⟩
  · rw [get_eq] at htext
    obtain ⟨data, hdata, hdecoded⟩ := Option.bind_eq_some_iff.mp htext
    have hmem := KeychainSwift.mem_contents_of_getData hdocumented hdata
    rw [hscope.contents, hcontents] at hmem
    exact ⟨data, hmem, hdecoded⟩
  · rw [← hcontents, ← hscope.contents]
    exact contents_of_mem_allKeys hdocumented hmem

/-- On a keychain that works, no deletion fails. -/
theorem regular_of_works (hworks : security.Works)
    (hscope : ∀ call ∈ calls, call.keychain.SameScope keychain) :
    (keychains security).Meets (Regular security keychain) s calls := by
  intro before call t hbefore _
  have hmem : call ∈ calls := hbefore.subset (by simp)
  exact ⟨hscope call hmem, fun query _ => hworks.deletes query t⟩

/-- Instances with and without a prefix come upon each other's items. -/
def prefixed : List Call :=
  [⟨{ keyPrefix := "jwt" }, .set "first" "Token" none, .success true⟩,
    ⟨{}, .get "jwtToken", .string (some "first")⟩,
    ⟨{}, .set "second" "jwtToken" none, .success true⟩,
    ⟨{ keyPrefix := "jwt" }, .get "Token", .string (some "second")⟩,
    ⟨{ keyPrefix := "jwt" }, .clear, .success true⟩,
    ⟨{}, .get "jwtToken", .string none⟩]

theorem told_of_run_prefixed : ∃ t, (keychains listed).run [] prefixed = some t ∧
    Told listed {} [] prefixed t := by
  refine ⟨[], by decide +kernel, told_of_run documented_listed ?_ (by decide +kernel)⟩
  apply regular_of_works works_listed
  intro call hmem
  simp only [prefixed, List.mem_cons, List.not_mem_nil, or_false] at hmem
  obtain rfl | rfl | rfl | rfl | rfl | rfl := hmem <;> exact ⟨rfl, rfl⟩

end BunjangClone.Keychain
