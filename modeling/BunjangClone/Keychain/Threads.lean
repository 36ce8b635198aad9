import BunjangClone.Keychain.History
import BunjangClone.Reactive.Lock

/-!
# Threads that share an instance

Several threads call one instance of `KeychainSwift`. A call has the instance's lock while it
writes its query and its result code into the instance and asks the system in between. Then
`get` decodes what was found, and writes another result code if that fails, without the lock.

If everything that `get` finds can be decoded, the calls are those of a history. Otherwise a
call that has stored its value may tell that it has not.
-/

namespace BunjangClone.Keychain

open Reactive
open Lock (Code Done Phase Threads Turn)

/-! ## The code of the calls -/

/-- What a thread does at once. The query and the result of the system are its own, the result
code is kept in the instance, and it is the one there that is tested. -/
inductive Instruction where
  | query (key : Option String) (items : Query) (addingItems : Bool)
  | secItemAdd
  | secItemDelete
  | secItemCopyMatching
  | lastResultCode
  | returnSuccess
  | returnData
deriving DecidableEq

namespace Instruction

def deleteNoLock (key : String) : List Instruction :=
  [.query (some key) {} false, .secItemDelete, .lastResultCode]

def setData (value : ByteArray) (key : String) (access : Option KeychainSwiftAccessOptions) :
    List Instruction :=
  deleteNoLock key ++
    [.query (some key)
      { valueData := some value, accessible := some (access.getD .accessibleWhenUnlocked) } true,
      .secItemAdd, .lastResultCode, .returnSuccess]

def getData (key : String) (asReference : Bool) : List Instruction :=
  [.query (some key)
    (if asReference then { matchLimit := some .one, returnReference := true }
      else { matchLimit := some .one, returnData := true }) false,
    .secItemCopyMatching, .lastResultCode, .returnData]

def delete (key : String) : List Instruction := deleteNoLock key ++ [.returnSuccess]

def clear : List Instruction :=
  [.query none {} false, .secItemDelete, .lastResultCode, .returnSuccess]

end Instruction

/-- `allKeys` takes no lock. -/
def Operation.code : Operation → List Instruction
  | .set value key access => Instruction.setData value.toUTF8 key access
  | .setData value key access => Instruction.setData value key access
  | .setBool value key access => Instruction.setData (KeychainSwift.bytes value) key access
  | .get key | .getBool key => Instruction.getData key false
  | .getData key asReference => Instruction.getData key asReference
  | .delete key => Instruction.delete key
  | .allKeys => []
  | .clear => Instruction.clear

/-- The key under which an operation stores. -/
def Operation.stores : Operation → Option String
  | .set _ key _ | .setData _ key _ | .setBool _ key _ => some key
  | _ => none

/-- The operations that take the lock. -/
abbrev Locked := { operation : Operation // operation ≠ .allKeys }

/-- What a call has still to do, and its variables. -/
structure Frame where
  rest : List Instruction
  query : Query := {}
  resultCode : OSStatus := noErr
  result : Option AnyObject := none
  returned : Option Returned := none
deriving DecidableEq

variable {σ : Type} (security : Security σ)

def Frame.step : Frame × KeychainSwift × σ → Frame × KeychainSwift × σ
  | (frame, self, s) =>
      match frame.rest with
      | [] => (frame, self, s)
      | .query key items addingItems :: rest =>
          let query := self.addSynchronizableIfRequired (self.addAccessGroupWhenPresent
            { items with attrAccount := key.map self.keyWithPrefix }) addingItems
          ({ frame with rest := rest, query := query },
            { self with lastQueryParameters := some query }, s)
      | .secItemAdd :: rest =>
          let (resultCode, s) := security.secItemAdd frame.query s
          ({ frame with rest := rest, resultCode := resultCode }, self, s)
      | .secItemDelete :: rest =>
          let (resultCode, s) := security.secItemDelete frame.query s
          ({ frame with rest := rest, resultCode := resultCode }, self, s)
      | .secItemCopyMatching :: rest =>
          let (resultCode, result) := security.secItemCopyMatching frame.query s
          ({ frame with rest := rest, resultCode := resultCode, result := result }, self, s)
      | .lastResultCode :: rest =>
          ({ frame with rest := rest }, { self with lastResultCode := frame.resultCode }, s)
      | .returnSuccess :: rest =>
          ({ frame with
              rest := rest
              returned := some (.success (self.lastResultCode = noErr)) }, self, s)
      | .returnData :: rest =>
          let data :=
            if self.lastResultCode = noErr then
              match frame.result with
              | some (.data data) => some data
              | _ => none
            else none
          ({ frame with rest := rest, returned := some (.data data) }, self, s)

/-- What `get` does with the data once it has let the lock go. -/
def leave : Operation → Returned → KeychainSwift × σ → KeychainSwift × σ
  | .get _, .data (some data), (self, s) =>
      match String.fromUTF8? data with
      | some _ => (self, s)
      | none => ({ self with lastResultCode := errSecInvalidEncoding }, s)
  | _, _, shared => shared

/-- What the caller gets. -/
def answer : Operation → Returned → Returned
  | .get _, .data data => .string (data.bind String.fromUTF8?)
  | .getBool _, .data data => .bool (data.bind fun data => data.data[0]?.map (· == 1))
  | _, returned => returned

def code : Code (KeychainSwift × σ) Locked Frame Returned where
  enter operation := { rest := operation.1.code }
  step := Frame.step security
  returned := Frame.returned
  leave operation := leave operation.1

/-! ## One call -/

namespace KeychainSwift

/-- The instances differ in nothing but what calls have written into them. -/
structure SameSettings (keychain other : KeychainSwift) : Prop extends
    keychain.SameScope other where
  keyPrefix : keychain.keyPrefix = other.keyPrefix

variable {security} {self other : KeychainSwift} {s : σ}

theorem SameSettings.refl (self : KeychainSwift) : self.SameSettings self := ⟨⟨rfl, rfl⟩, rfl⟩

theorem SameSettings.trans {third : KeychainSwift} (h : self.SameSettings other)
    (h' : other.SameSettings third) : self.SameSettings third :=
  ⟨⟨h.accessGroup.trans h'.accessGroup, h.synchronizable.trans h'.synchronizable⟩,
    h.keyPrefix.trans h'.keyPrefix⟩

theorem SameSettings.perform (h : self.SameSettings other) (operation : Operation) :
    self.perform security s operation = other.perform security s operation := by
  obtain ⟨_, _, keyPrefix, accessGroup, synchronizable⟩ := self
  obtain ⟨_, _, keyPrefix', accessGroup', synchronizable'⟩ := other
  obtain ⟨⟨rfl, rfl⟩, rfl⟩ := h
  cases operation <;> rfl

theorem SameSettings.deleteNoLock (h : self.SameSettings other) (key : String) :
    (self.deleteNoLock security key s).2.2 = (other.deleteNoLock security key s).2.2 := by
  obtain ⟨_, _, keyPrefix, accessGroup, synchronizable⟩ := self
  obtain ⟨_, _, keyPrefix', accessGroup', synchronizable'⟩ := other
  obtain ⟨⟨rfl, rfl⟩, rfl⟩ := h
  rfl

end KeychainSwift

open KeychainSwift (SameSettings)

variable {security} {self other : KeychainSwift} {s t : σ} {operation : Operation}

/-- The code of each call is the call, as it runs on its own. -/
theorem setData_returns (self : KeychainSwift) (s : σ) (value : ByteArray) (key : String)
    (access : Option KeychainSwiftAccessOptions) :
    ∃ frame, (code security).next^[7]
        ({ rest := Instruction.setData value key access }, (self, s)) =
          (frame, (self.setData security value key access s).2) ∧
      frame.returned = some (.success (self.setData security value key access s).1) :=
  ⟨_, rfl, rfl⟩

/-- The query of `getData`. -/
def fetch (self : KeychainSwift) (key : String) (asReference : Bool) : Query :=
  self.query
    (if asReference then
      { attrAccount := some (self.keyWithPrefix key), matchLimit := some .one,
        returnReference := true }
    else
      { attrAccount := some (self.keyWithPrefix key), matchLimit := some .one,
        returnData := true })

theorem getData_eq {key : String} {asReference : Bool} {resultCode : OSStatus}
    {result : Option AnyObject}
    (h : security.secItemCopyMatching (fetch self key asReference) s = (resultCode, result)) :
    self.getData security key asReference s =
      (if resultCode = noErr then
        match result with
        | some (.data data) => some data
        | _ => none
      else none,
      { self with
        lastQueryParameters := some (fetch self key asReference)
        lastResultCode := resultCode }) := by
  rw [fetch] at h
  by_cases hok : resultCode = noErr
  · cases result with
    | none => simp [KeychainSwift.getData, fetch, h, hok]
    | some result => cases result <;> simp [KeychainSwift.getData, fetch, h, hok]
  · simp [KeychainSwift.getData, fetch, h, hok]

theorem getData_returns (self : KeychainSwift) (s : σ) (key : String) (asReference : Bool) :
    ∃ frame, (code security).next^[4]
        ({ rest := Instruction.getData key asReference }, (self, s)) =
          (frame, (self.getData security key asReference s).2, s) ∧
      frame.returned = some (.data (self.getData security key asReference s).1) := by
  rw [getData_eq Prod.mk.eta.symm]
  cases asReference <;> exact ⟨_, rfl, rfl⟩

theorem delete_returns (self : KeychainSwift) (s : σ) (key : String) :
    ∃ frame, (code security).next^[4]
        ({ rest := Instruction.delete key }, (self, s)) =
          (frame, (self.delete security key s).2) ∧
      frame.returned = some (.success (self.delete security key s).1) :=
  ⟨_, rfl, rfl⟩

theorem clear_returns (self : KeychainSwift) (s : σ) :
    ∃ frame, (code security).next^[4]
        ({ rest := Instruction.clear }, (self, s)) =
          (frame, (self.clear security s).2) ∧
      frame.returned = some (.success (self.clear security s).1) :=
  ⟨_, rfl, rfl⟩

theorem sameSettings_getData (key : String) (asReference : Bool) :
    self.SameSettings (self.getData security key asReference s).2 := by
  rw [getData_eq Prod.mk.eta.symm]
  exact ⟨⟨rfl, rfl⟩, rfl⟩

theorem getBool_eq (key : String) :
    (self.getBool security key s).1 =
      (self.getData security key false s).1.bind fun data => data.data[0]?.map (· == 1) := by
  rw [KeychainSwift.getBool]
  rcases self.getData security key false s with ⟨_ | data, keychain⟩ <;> rfl

/-- A call on its own is the operation, and changes no settings. -/
theorem exists_returns (self : KeychainSwift) (s : σ) (operation : Locked) :
    ∃ result self', (code security).Returns operation (self, s) result
        (self', (self.perform security s operation.1).2) ∧
      answer operation.1 result = (self.perform security s operation.1).1 ∧
        self.SameSettings self' := by
  rcases operation with ⟨operation, hlocked⟩
  cases operation with
  | set value key access =>
      obtain ⟨frame, hrun, hreturned⟩ := setData_returns self s value.toUTF8 key access
      exact ⟨_, _, ⟨7, frame, hrun, hreturned⟩, rfl, ⟨rfl, rfl⟩, rfl⟩
  | setData value key access =>
      obtain ⟨frame, hrun, hreturned⟩ := setData_returns self s value key access
      exact ⟨_, _, ⟨7, frame, hrun, hreturned⟩, rfl, ⟨rfl, rfl⟩, rfl⟩
  | setBool value key access =>
      obtain ⟨frame, hrun, hreturned⟩ :=
        setData_returns self s (KeychainSwift.bytes value) key access
      exact ⟨_, _, ⟨7, frame, hrun, hreturned⟩, rfl, ⟨rfl, rfl⟩, rfl⟩
  | get key =>
      obtain ⟨frame, hrun, hreturned⟩ := getData_returns self s key false
      refine ⟨_, _, ⟨4, frame, hrun, hreturned⟩, ?_, sameSettings_getData key false⟩
      exact congrArg Returned.string (get_eq key).symm
  | getData key asReference =>
      obtain ⟨frame, hrun, hreturned⟩ := getData_returns self s key asReference
      exact ⟨_, _, ⟨4, frame, hrun, hreturned⟩, rfl, sameSettings_getData key asReference⟩
  | getBool key =>
      obtain ⟨frame, hrun, hreturned⟩ := getData_returns self s key false
      refine ⟨_, _, ⟨4, frame, hrun, hreturned⟩, ?_, sameSettings_getData key false⟩
      exact congrArg Returned.bool (getBool_eq key).symm
  | delete key =>
      obtain ⟨frame, hrun, hreturned⟩ := delete_returns self s key
      exact ⟨_, _, ⟨4, frame, hrun, hreturned⟩, rfl, ⟨rfl, rfl⟩, rfl⟩
  | allKeys => exact absurd rfl hlocked
  | clear =>
      obtain ⟨frame, hrun, hreturned⟩ := clear_returns self s
      exact ⟨_, _, ⟨4, frame, hrun, hreturned⟩, rfl, ⟨rfl, rfl⟩, rfl⟩

def Instruction.isReturn : Instruction → Bool
  | .returnSuccess | .returnData => true
  | _ => false

/-- The call returns in the end. -/
def Frame.Ends (frame : Frame) : Prop :=
  frame.returned = none → ∃ last, frame.rest.getLast? = some last ∧ last.isReturn = true

/-- No call takes more than seven steps. -/
theorem bounded_code :
    Lock.Bounded (code security) (fun frame => frame.rest.length) 7 Frame.Ends where
  enter call := by
    rcases call with ⟨operation, hlocked⟩
    cases operation with
    | set value key access | setData value key access | setBool value key access =>
        exact ⟨fun _ => ⟨.returnSuccess, rfl, rfl⟩, le_of_eq rfl⟩
    | get key | getData key asReference | getBool key =>
        exact ⟨fun _ => ⟨.returnData, rfl, rfl⟩, Nat.le_add_right 4 3⟩
    | delete key | clear => exact ⟨fun _ => ⟨.returnSuccess, rfl, rfl⟩, Nat.le_add_right 4 3⟩
    | allKeys => exact absurd rfl hlocked
  step frame shared hends hreturned := by
    obtain ⟨last, hlast, hreturn⟩ := hends hreturned
    rcases shared with ⟨self, s⟩
    rcases frame with ⟨_ | ⟨instruction, rest⟩, query, resultCode, result, returned⟩
    · cases hlast
    · have hlater : instruction.isReturn = false → rest.getLast? = some last := by
        intro hnot
        cases rest with
        | nil =>
            obtain rfl : instruction = last := by simpa using hlast
            rw [hreturn] at hnot
            cases hnot
        | cons next rest => exact hlast
      cases instruction with
      | query key items addingItems =>
          exact ⟨fun _ => ⟨last, hlater rfl, hreturn⟩, Nat.lt_succ_self _⟩
      | secItemAdd | secItemDelete | secItemCopyMatching | lastResultCode =>
          exact ⟨fun _ => ⟨last, hlater rfl, hreturn⟩, Nat.lt_succ_self _⟩
      | returnSuccess | returnData => exact ⟨nofun, Nat.lt_succ_self _⟩

/-! ## Amid a call -/

/-- The keychain before a call, amid one that stores, or after the call. -/
inductive Amid (security : Security σ) (self : KeychainSwift) (operation : Operation) (s : σ) :
    σ → Prop where
  | before : Amid security self operation s s
  | deleted {key : String} (stores : operation.stores = some key) :
      Amid security self operation s (self.deleteNoLock security key s).2.2
  | after : Amid security self operation s (self.perform security s operation).2

theorem amid_setData {value : ByteArray} {key : String}
    {access : Option KeychainSwiftAccessOptions} (hstores : operation.stores = some key)
    (hperform : (self.perform security s operation).2 =
      (self.setData security value key access s).2.2) (n : Nat) :
    Amid security self operation s ((code security).next^[n]
      ({ rest := Instruction.setData value key access }, (self, s))).2.2 := by
  match n with
  | 0 | 1 => exact .before
  | 2 | 3 | 4 => exact .deleted hstores
  | 5 | 6 =>
      show Amid security self operation s (self.setData security value key access s).2.2
      rw [← hperform]
      exact .after
  | n + 7 =>
      obtain ⟨frame, hrun, hreturned⟩ := setData_returns self s value key access
      rw [Nat.add_comm, Code.iterate_of_returned hrun hreturned, ← hperform]
      exact .after

theorem amid_getData {key : String} {asReference : Bool} (n : Nat) :
    Amid security self operation s ((code security).next^[n]
      ({ rest := Instruction.getData key asReference }, (self, s))).2.2 := by
  match n with
  | 0 | 1 | 2 | 3 => exact .before
  | n + 4 =>
      obtain ⟨frame, hrun, hreturned⟩ := getData_returns self s key asReference
      rw [Nat.add_comm, Code.iterate_of_returned hrun hreturned]
      exact .before

theorem amid_deletion (key : Option String)
    (hperform : (self.perform security s operation).2 =
      (security.secItemDelete (self.query { attrAccount := key.map self.keyWithPrefix }) s).2)
    (n : Nat) :
    Amid security self operation s ((code security).next^[n]
      ({ rest := [.query key {} false, .secItemDelete, .lastResultCode, .returnSuccess] },
        (self, s))).2.2 := by
  match n with
  | 0 | 1 => exact .before
  | 2 | 3 =>
      show Amid security self operation s
        (security.secItemDelete (self.query { attrAccount := key.map self.keyWithPrefix }) s).2
      rw [← hperform]
      exact .after
  | n + 4 =>
      rw [Nat.add_comm, Code.iterate_of_returned rfl rfl n]
      show Amid security self operation s
        (security.secItemDelete (self.query { attrAccount := key.map self.keyWithPrefix }) s).2
      rw [← hperform]
      exact .after

/-- Whatever a call has done so far, the keychain is as it was, as it will be, or without
what is to be replaced. -/
theorem amid_of_iterate (self : KeychainSwift) (s : σ) (operation : Locked) (n : Nat) :
    Amid security self operation.1 s
      ((code security).next^[n] ((code security).enter operation, (self, s))).2.2 := by
  rcases operation with ⟨operation, hlocked⟩
  cases operation with
  | set value key access => exact amid_setData rfl rfl n
  | setData value key access => exact amid_setData rfl rfl n
  | setBool value key access => exact amid_setData rfl rfl n
  | get key => exact amid_getData n
  | getData key asReference => exact amid_getData n
  | getBool key => exact amid_getData n
  | delete key => exact amid_deletion (some key) rfl n
  | allKeys => exact absurd rfl hlocked
  | clear => exact amid_deletion none rfl n

/-! ## Texts -/

/-- The data can be decoded. -/
def IsText (data : ByteArray) : Prop := (String.fromUTF8? data).isSome

instance (data : ByteArray) : Decidable (IsText data) :=
  inferInstanceAs (Decidable ((String.fromUTF8? data).isSome = true))

variable (security) in
def Texts (s : σ) : Prop := ∀ item ∈ security.items s, IsText item.valueData

/-- The operation stores nothing but texts. -/
def Operation.StoresTexts : Operation → Prop
  | .setData value _ _ => IsText value
  | _ => True

theorem isText_toUTF8 (text : String) : IsText text.toUTF8 := by
  have hdecoded : String.fromUTF8? text.toUTF8 = some text := dif_pos text.isValidUTF8
  rw [IsText, hdecoded]
  rfl

theorem isText_bytes (value : Bool) : IsText (KeychainSwift.bytes value) := by
  cases value <;> decide +kernel

theorem texts_secItemDelete (hdocumented : security.Documented) (htexts : Texts security s)
    (query : Query) : Texts security (security.secItemDelete query s).2 := by
  intro item hmem
  by_cases hok : (security.secItemDelete query s).1 = noErr
  · rw [hdocumented.delete query s hok] at hmem
    exact htexts item (Multiset.mem_filter.mp hmem).1
  · rw [hdocumented.not_delete query s hok] at hmem
    exact htexts item hmem

theorem texts_setData (hdocumented : security.Documented) (htexts : Texts security s)
    {value : ByteArray} (hvalue : IsText value) (key : String)
    (access : Option KeychainSwiftAccessOptions) :
    Texts security (self.setData security value key access s).2.2 := by
  have hdeleted : Texts security (self.deleteNoLock security key s).2.2 :=
    texts_secItemDelete hdocumented htexts _
  rw [(Prod.mk.inj (KeychainSwift.setData_eq security self value key access s)).2]
  intro item hmem
  by_cases hok : (security.secItemAdd (self.addition value key access)
      (self.deleteNoLock security key s).2.2).1 = noErr
  · rw [hdocumented.add _ _ hok, KeychainSwift.added_addition] at hmem
    obtain rfl | hmem := Multiset.mem_cons.mp hmem
    · exact hvalue
    · exact hdeleted item hmem
  · rw [hdocumented.not_add _ _ hok] at hmem
    exact hdeleted item hmem

theorem texts_perform (hdocumented : security.Documented) (htexts : Texts security s)
    (hstores : operation.StoresTexts) :
    Texts security (self.perform security s operation).2 := by
  cases operation with
  | set value key access => exact texts_setData hdocumented htexts (isText_toUTF8 value) key access
  | setData value key access => exact texts_setData hdocumented htexts hstores key access
  | setBool value key access =>
      exact texts_setData hdocumented htexts (isText_bytes value) key access
  | delete key => exact texts_secItemDelete hdocumented htexts _
  | clear => exact texts_secItemDelete hdocumented htexts _
  | _ => exact htexts

/-- What is found among texts is one. -/
theorem isText_of_returns (hdocumented : security.Documented) (htexts : Texts security s)
    {call : Locked} {key : String} (hget : call.1 = .get key) {data : ByteArray}
    {shared : KeychainSwift × σ}
    (h : (code security).Returns call (self, s) (.data (some data)) shared) : IsText data := by
  rcases call with ⟨_, hlocked⟩
  obtain rfl := hget
  obtain ⟨frame, hrun, hreturned⟩ := @getData_returns _ security self s key false
  have hfound := (h.unique ⟨4, frame, hrun, hreturned⟩).1
  have hmem := KeychainSwift.mem_contents_of_getData hdocumented (Returned.data.inj hfound).symm
  obtain ⟨item, hitem, rfl⟩ := Multiset.mem_map.mp hmem
  exact htexts item (Multiset.mem_filter.mp hitem).1

/-! ## Runs -/

section Runs

variable {ι : Type}

abbrev Callers (ι σ : Type) := Threads ι (KeychainSwift × σ) Locked Frame Returned

/-- What `get` has found can be decoded. -/
def Decodes (state : Callers ι σ) : Turn ι Locked → Prop
  | .leave i => ∀ call key data, call.1 = .get key →
      state.phase i = .leaving call (.data (some data)) → IsText data
  | _ => True

/-- The call as a history has it. -/
def asCall (self : KeychainSwift) (done : Done ι Locked Returned) : Call :=
  ⟨self, done.call.1, answer done.call.1 done.result⟩

variable {state : Callers ι σ} {turn : Turn ι Locked} {turns : List (Turn ι Locked)}
variable {history : List (Done ι Locked Returned)} {shared : KeychainSwift × σ}

theorem quiet_of_decodes (h : Decodes state turn) : Lock.Quiet (code security) state turn := by
  cases turn with
  | leave i =>
      intro call result hleaving
      show leave call.1 result state.shared = state.shared
      rcases call with ⟨operation, hlocked⟩
      rcases result with _ | _ | (_ | data) | _ | _ <;> cases operation <;> try rfl
      rename_i key
      obtain ⟨text, htext⟩ := Option.isSome_iff_exists.mp (h _ key data rfl hleaving)
      rw [leave, htext]
  | _ => trivial

theorem history_of_serial (h : (code security).Serial (self, s) history shared) :
    (keychains security).run s (history.map (asCall self)) = some shared.2 ∧
      self.SameSettings shared.1 := by
  induction h with
  | nil => exact ⟨rfl, .refl self⟩
  | @concat history t u done earlier now ih =>
      obtain ⟨hrun, hsettings⟩ := ih
      obtain ⟨result, self', hreturns, hanswer, hkept⟩ := exists_returns t.1 t.2 done.call
      obtain ⟨hresult, hu⟩ := now.unique hreturns
      rw [hu, List.map_append, List.map_singleton]
      refine ⟨Machine.run_concat hrun (step_eq_some_iff.mpr ⟨?_, ?_⟩), hsettings.trans hkept⟩
      · show answer done.call.1 done.result = (self.perform security t.2 done.call.1).1
        rw [hresult, hanswer, hsettings.perform]
      · show (t.1.perform security t.2 done.call.1).2 = (self.perform security t.2 done.call.1).2
        rw [hsettings.perform]

theorem texts_of_serial (hdocumented : security.Documented) (htexts : Texts security s)
    (h : (code security).Serial (self, s) history shared)
    (hstores : ∀ done ∈ history, done.call.1.StoresTexts) : Texts security shared.2 := by
  induction h with
  | nil => exact htexts
  | @concat history t u done earlier now ih =>
      obtain ⟨result, self', hreturns, hanswer, hkept⟩ := exists_returns t.1 t.2 done.call
      rw [(now.unique hreturns).2]
      apply texts_perform hdocumented
      · exact ih fun done hmem => hstores done (List.mem_append_left _ hmem)
      · exact hstores done (by simp)

theorem amid_of_sameSettings {self' : KeychainSwift} (h : self.SameSettings self')
    (hamid : Amid security self' operation s t) : Amid security self operation s t := by
  cases hamid with
  | before => exact .before
  | deleted hstores =>
      rw [← h.deleteNoLock]
      exact .deleted hstores
  | after =>
      rw [← h.perform]
      exact .after

variable [DecidableEq ι]

variable (security) in
def callers (ι : Type) [DecidableEq ι] : Machine (Callers ι σ) (Turn ι Locked) :=
  Lock.threads ι (code security)

variable (security) in
/-- The calls that let the lock go, in their order. -/
def released (self : KeychainSwift) (s : σ) (turns : List (Turn ι Locked)) :
    List (Done ι Locked Returned) :=
  (callers security ι).collect (Threads.released (code security)) { shared := (self, s) } turns

variable (security) in
/-- A run of the threads of an instance is a history of the calls that let the lock go. -/
structure Serialized (keychain : KeychainSwift) (s : σ) (turns : List (Turn ι Locked))
    (state : Callers ι σ) : Prop where
  exclusive : ∀ i j call frame call' frame', state.phase i = .inside call frame →
    state.phase j = .inside call' frame' → i = j
  goesOn : ∀ i, state.phase i ≠ .idle →
    ∃ turn, turn.isCall = false ∧ ((callers security ι).step state turn).isSome
  bounded : ∀ i, (turns.filter (·.thread = i)).length ≤
    11 * (turns.filterMap (Turn.calledBy i)).length
  ordered : ∀ i, turns.filterMap (Turn.calledBy i) =
    ((released security keychain s turns).filter (·.thread = i)).map Done.call ++
      (state.phase i).pending
  history : ∃ t,
    (keychains security).run s ((released security keychain s turns).map (asCall keychain)) =
      some t ∧ (state.owner = none → state.shared.2 = t) ∧
        ∀ i call frame, state.phase i = .inside call frame →
          Amid security keychain call.1 t state.shared.2

theorem meets_quiet
    (hdecodes : (callers security ι).Meets Decodes { shared := (self, s) } turns) :
    (callers security ι).Meets (Lock.Quiet (code security)) { shared := (self, s) } turns :=
  fun before turn state hbefore hrun =>
    quiet_of_decodes (hdecodes before turn state hbefore hrun)

/-- If `get` decodes whatever it finds, the calls take effect one after another. -/
theorem serialized_of_decodes
    (hdecodes : (callers security ι).Meets Decodes { shared := (self, s) } turns)
    (h : (callers security ι).run { shared := (self, s) } turns = some state) :
    Serialized security self s turns state := by
  have hexclusive := Lock.exclusive_of_run h
  obtain ⟨⟨self', t⟩, hserial, hfree, hinside⟩ := Lock.serial_of_run (meets_quiet hdecodes) h
  obtain ⟨hrun, hsettings⟩ := history_of_serial hserial
  refine {
    exclusive := fun i j call frame call' frame' hi hj => hexclusive.eq hi hj
    goesOn := fun i hbusy => Lock.exists_turn hexclusive hbusy
    bounded := Lock.bounded_of_run bounded_code h
    ordered := Lock.ordered_of_run h
    history := ⟨t, hrun, fun howner => ?_, fun i call frame hi => ?_⟩ }
  · rw [hfree howner]
  · obtain ⟨n, hn⟩ := hinside i call frame hi
    have hamid := @amid_of_iterate _ security self' t call n
    rw [hn] at hamid
    exact amid_of_sameSettings hsettings hamid

/-- Among texts `get` decodes whatever it finds: so far the calls took effect one after another,
and it has found what one of them left. -/
theorem meets_decodes (hdocumented : security.Documented) (htexts : Texts security s)
    (hstores : ∀ i call, .call i call ∈ turns → call.1.StoresTexts)
    (h : (callers security ι).run { shared := (self, s) } turns = some state) :
    (callers security ι).Meets Decodes { shared := (self, s) } turns := by
  refine Machine.run_induction (m := callers security ι) (s := { shared := (self, s) })
    (P := fun turns _ => (∀ i call, .call i call ∈ turns → call.1.StoresTexts) →
      (callers security ι).Meets Decodes { shared := (self, s) } turns) ?_ ?_ turns state h hstores
  · exact fun _ => Machine.meets_nil
  · intro turns state turn state' hrun ih hstep hstores
    have before := ih fun i call hmem => hstores i call (List.mem_append_left _ hmem)
    refine Machine.meets_concat.mpr ⟨before, fun state' hrun' => ?_⟩
    obtain rfl := Option.some.inj (hrun.symm.trans hrun')
    cases turn with
    | leave i =>
        intro call key data hget hleaving
        obtain ⟨t, hserial, _, _⟩ := Lock.serial_of_run (meets_quiet before) hrun
        obtain ⟨earlier, u, v, hearlier, hearlierSerial, hreturns⟩ :=
          hserial.exists_returns (Lock.released_of_leaving hrun hleaving)
        refine isText_of_returns hdocumented ?_ hget hreturns
        apply texts_of_serial hdocumented htexts hearlierSerial
        intro done hmem
        apply hstores done.thread
        exact List.mem_append_left _
          (Lock.called_of_released hrun (hearlier.subset hmem))
    | _ => trivial

/-- In every interleaving of threads that share an instance and store texts, the calls took
effect one after another, and without the lock a thread comes upon the keychain before a call,
after it, or amid one that stores. -/
theorem threads_serialized (hdocumented : security.Documented) (htexts : Texts security s)
    (hstores : ∀ i call, .call i call ∈ turns → call.1.StoresTexts)
    (h : (callers security ι).run { shared := (self, s) } turns = some state) :
    Serialized security self s turns state :=
  serialized_of_decodes (meets_decodes hdocumented htexts hstores h) h

end Runs

def oldToken : Item := ⟨"jwtToken", "", false, .accessibleWhenUnlocked, "old".toUTF8⟩

/-- A search is asked for first, and has to wait for a call that stores. -/
def overtaken : List (Turn Bool Locked) := List.flatten
  [[.call true ⟨.get "jwtToken", nofun⟩, .call false ⟨.set "new" "jwtToken" none, nofun⟩],
    [.lock false], List.replicate 7 (.step false), [.unlock false],
    [.lock true], List.replicate 4 (.step true), [.leave false, .unlock true, .leave true]]

theorem threads_serialized_overtaken : ∃ state,
    (callers listed Bool).run { shared := ({}, [oldToken]) } overtaken = some state ∧
      Serialized listed {} [oldToken] overtaken state ∧
        (released listed {} [oldToken] overtaken).map
            (fun done => (done.thread, answer done.call.1 done.result)) =
          [(false, .success true), (true, .string (some "new"))] := by
  have hrun : ((callers listed Bool).run { shared := ({}, [oldToken]) } overtaken).isSome := by
    decide +kernel
  obtain ⟨state, hstate⟩ := Option.isSome_iff_exists.mp hrun
  refine ⟨state, hstate, threads_serialized documented_listed ?_ ?_ hstate, by decide +kernel⟩
  · intro item hmem
    obtain rfl := List.mem_singleton.mp hmem
    exact isText_toUTF8 "old"
  · intro i call hmem
    simp [overtaken] at hmem
    obtain ⟨rfl, rfl⟩ | ⟨rfl, rfl⟩ := hmem <;> trivial

/-- `get` finds what cannot be decoded, and writes its result code after another call has
stored its value and before that call tests the code. -/
example :
    let s : List Item := [⟨"blob", "", false, .accessibleWhenUnlocked, ⟨#[255]⟩⟩]
    let turns : List (Turn Bool Locked) := List.flatten
      [[.call true ⟨.get "blob", nofun⟩, .lock true], List.replicate 4 (.step true),
        [.unlock true, .call false ⟨.set "new" "jwtToken" none, nofun⟩, .lock false],
        List.replicate 6 (.step false), [.leave true, .step false, .unlock false]]
    ((callers listed Bool).run { shared := ({}, s) } turns).isSome ∧
      ((keychains listed).run s ((released listed {} s turns).map (asCall {}))).isNone := by
  decide +kernel

end BunjangClone.Keychain
