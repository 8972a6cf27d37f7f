import ToolingHost.Rpc.Incoming

/-! # What the members of a message decide

A received value is told apart by what stands at a few keys: `Rpc.Shape` says in these terms what a
response, a request and a notification is, and a value gets a shape exactly if it has it
(`Rpc.classify_eq_some_iff`). An object that was built from members with different keys holds what
they hold (`Json.Members.get?_ofList_of_nodup`), so every message that a client writes is read as
what it was written as (`Rpc.classified_by_members`). -/

namespace ToolingHost

/-! ## Members of objects -/

namespace Json

namespace Members

/-- What stands at a key is found at the first member with it. -/
theorem get?_cons (k key : String) (value : Value) (rest : Members) :
    get? ((k, value) :: rest) key = if key = k then some value else get? rest key :=
  Ordered.lookup_cons_eq k key value rest

/-- If the members that an object is built from have different keys, it holds what they hold. -/
theorem get?_ofList_of_nodup {members : Members} (distinct : (members.map Prod.fst).Nodup)
    (key : String) : get? (Ordered.ofList members) key = get? members key := by
  unfold get?
  rw [Ordered.lookup_ofList, Ordered.lookup_reverse distinct]

end Members

namespace Value

/-- A value is an object in which a key stands for a member: the first one with that key. -/
def Holds (v : Value) (key : String) (member : Value) : Prop :=
  ∃ before after, v = .object (before ++ (key, member) :: after) ∧ ∀ other ∈ before, other.1 ≠ key

/-- A value is an object with a key. -/
def Has (v : Value) (key : String) : Prop := ∃ member, v.Holds key member

/-- What a value gives at a key, if it gives anything. -/
def Gives (v : Value) (key : String) (member? : Option Value) : Prop :=
  ∀ member, member? = some member ↔ v.Holds key member

variable {v member : Value} {key : String}

/-- What is found at a key stands there. -/
theorem get?_eq_some_iff : v.get? key = some member ↔ v.Holds key member := by
  unfold Holds
  cases v with
  | object members =>
      rw [get?_object, Members.get?, List.lookup_eq_some_iff]
      simp only [Value.object.injEq, bne_iff_ne, ne_eq, @eq_comm String]
  | null | bool | number | string | array => simp [get?]

/-- Something is found at a key exactly if the value has it. -/
theorem get?_isSome_iff : (v.get? key).isSome = true ↔ v.Has key := by
  rw [Option.isSome_iff_exists]
  exact exists_congr fun _ => get?_eq_some_iff

/-- What is found at a key is what the value gives there. -/
theorem get?_eq_iff {member? : Option Value} : v.get? key = member? ↔ v.Gives key member? := by
  constructor
  · rintro rfl member
    exact get?_eq_some_iff
  · intro gives
    apply Option.ext
    intro member
    rw [get?_eq_some_iff, gives]

/-- A value is a natural number of 64 bits exactly if it is that integer. -/
theorem nat?_eq_some_iff {n : Nat} : v.nat? = some n ↔ v = .int n ∧ n < Nat.pow 2 64 := by
  unfold nat? int
  split
  · rename_i i
    rw [Value.number.injEq, Number.int.injEq]
    split
    · rw [Option.some.injEq]
      omega
    · simp only [reduceCtorEq, false_iff]
      omega
  · rename_i other
    simp only [reduceCtorEq, false_iff]
    rintro ⟨rfl, -⟩
    exact other _ rfl

/-- A value is a text exactly if it is that text. -/
theorem string?_eq_some_iff {s : String} : v.string? = some s ↔ v = .string s := by
  cases v <;> simp [string?]

end Value

end Json

/-! ## Shapes -/

namespace Rpc

open ToolingHost.Json

/-- The shapes that a message has by its members. -/
inductive Shape (frame : Value) : Incoming → Prop where
  /-- A response has a number of 64 bits as its id, a result or an error, and no text as method. -/
  | response {id : Nat} (numbered : frame.Holds "id" (.int id)) (fits : id < Nat.pow 2 64)
      (settled : frame.Has "result" ∨ frame.Has "error")
      (unnamed : ∀ method, ¬frame.Holds "method" (.string method)) :
      Shape frame (.response id frame)
  /-- A request has an id, whatever value that is, and a text as method. -/
  | request {id : Value} {method : String} {params : Option Value} (numbered : frame.Holds "id" id)
      (named : frame.Holds "method" (.string method)) (given : frame.Gives "params" params) :
      Shape frame (.request id method params)
  /-- A notification has no id, and a text as method. -/
  | notification {method : String} {params : Option Value} (unnumbered : ¬frame.Has "id")
      (named : frame.Holds "method" (.string method)) (given : frame.Gives "params" params) :
      Shape frame (.notification method params)

section Shape

variable {frame body : Value} {id : Nat} {method : String} {params : Option Value}

/-- A text is found as the method exactly if it stands there. -/
theorem method_eq_some_iff :
    (frame.get? "method").bind Value.string? = some method ↔
      frame.Holds "method" (.string method) := by
  rw [Option.bind_eq_some_iff, ← Value.get?_eq_some_iff]
  simp only [Value.string?_eq_some_iff, exists_eq_right]

/-- No text is found as the method exactly if none stands there. -/
theorem method_eq_none_iff :
    (frame.get? "method").bind Value.string? = none ↔
      ∀ method, ¬frame.Holds "method" (.string method) := by
  rw [Option.eq_none_iff_forall_ne_some]
  exact forall_congr' fun _ => not_congr method_eq_some_iff

/-- A value is taken for a response exactly if it has the shape of one. -/
theorem classify_eq_response_iff :
    classify frame = some (.response id body) ↔ Shape frame (.response id body) := by
  constructor
  · intro h
    obtain rfl := body_of_classify h
    unfold classify at h
    dsimp only at h
    split at h
    · simp at h
    · simp at h
    · -- an id without a text as method: a response if it is settled and its id fits
      rename_i v numbered unnamed
      split at h
      · rename_i settled
        rw [Bool.or_eq_true, Value.get?_isSome_iff, Value.get?_isSome_iff] at settled
        simp only [Option.map_eq_some_iff, Incoming.response.injEq, and_true] at h
        obtain ⟨n, number, rfl⟩ := h
        obtain ⟨rfl, fits⟩ := Value.nat?_eq_some_iff.mp number
        exact .response (Value.get?_eq_some_iff.mp numbered) fits settled
          (method_eq_none_iff.mp unnamed)
      · simp at h
    · simp at h
  · intro shape
    cases shape with
    | response numbered fits settled unnamed =>
        rw [← Value.get?_eq_some_iff] at numbered
        rw [← method_eq_none_iff] at unnamed
        rw [← Value.get?_isSome_iff, ← Value.get?_isSome_iff, ← Bool.or_eq_true] at settled
        have number : (Value.int id).nat? = some id := Value.nat?_eq_some_iff.mpr ⟨rfl, fits⟩
        simp only [classify, numbered, unnamed, settled, number, if_true, Option.map_some]

/-- A value is taken for a notification exactly if it has the shape of one. -/
theorem classify_eq_notification_iff :
    classify frame = some (.notification method params) ↔
      Shape frame (.notification method params) := by
  constructor
  · intro h
    unfold classify at h
    dsimp only at h
    split at h
    · simp at h
    · -- the only arm for a value without an id and with a text as method
      rename_i unnumbered named
      simp only [Option.some.injEq, Incoming.notification.injEq] at h
      obtain ⟨rfl, given⟩ := h
      refine .notification (fun has => ?_) (method_eq_some_iff.mp named)
        (Value.get?_eq_iff.mp given)
      rw [← Value.get?_isSome_iff, unnumbered] at has
      cases has
    · split at h
      · simp at h
      · simp at h
    · simp at h
  · intro shape
    cases shape with
    | notification unnumbered named given =>
        rw [← Value.get?_isSome_iff, Bool.not_eq_true, Option.isSome_eq_false_iff,
          Option.isNone_iff_eq_none] at unnumbered
        rw [← method_eq_some_iff] at named
        rw [← Value.get?_eq_iff] at given
        simp only [classify, unnumbered, named, given]

/-- **A value is taken for what its members make it.** -/
theorem classify_eq_some_iff {incoming : Incoming} :
    classify frame = some incoming ↔ Shape frame incoming := by
  cases incoming with
  | response => exact classify_eq_response_iff
  | notification => exact classify_eq_notification_iff
  | request id method params =>
      rw [classify_eq_request_iff, Value.get?_eq_some_iff, Value.get?_eq_some_iff,
        Value.get?_eq_iff]
      constructor
      · rintro ⟨numbered, named, given⟩
        exact .request numbered named given
      · intro shape
        cases shape with
        | request numbered named given => exact ⟨numbered, named, given⟩

end Shape

/-! ## Messages that a client writes -/

/-- The members of a request have different keys. -/
theorem Request.nodup_members (r : Request) : (r.members.map Prod.fst).Nodup := by
  obtain ⟨id, method, params⟩ := r
  cases params <;> simp [members, paramsMember]

/-- The members of a notification have different keys. -/
theorem Notification.nodup_members (n : Notification) : (n.members.map Prod.fst).Nodup := by
  obtain ⟨method, params⟩ := n
  cases params <;> simp [members, paramsMember]

/-- A request holds what it is written with. -/
theorem Request.get?_toValue (r : Request) (key : String) :
    r.toValue.get? key = Value.get? (.object r.members) key :=
  Members.get?_ofList_of_nodup r.nodup_members key

/-- A notification holds what it is written with. -/
theorem Notification.get?_toValue (n : Notification) (key : String) :
    n.toValue.get? key = Value.get? (.object n.members) key :=
  Members.get?_ofList_of_nodup n.nodup_members key

/-- Parameters stand at their key if there are any. -/
theorem get?_paramsMember (params : Option Value) :
    Members.get? (paramsMember params) "params" = params := by
  cases params with
  | none => rfl
  | some v => rw [paramsMember, Members.get?_cons, if_pos rfl]

/-- What holds the members of a request is taken for it. -/
theorem classify_of_request (r : Request) {frame : Value}
    (same : ∀ key, frame.get? key = Value.get? (.object r.members) key) :
    classify frame = some (.request (.int r.id) r.method r.params) := by
  rw [classify_eq_request_iff, same, same, same]
  refine ⟨?_, ?_, ?_⟩
  · simp [Request.members, Members.get?_cons]
  · simp [Request.members, Members.get?_cons]
  · simp [Request.members, Members.get?_cons, get?_paramsMember]

/-- What holds the members of a notification is taken for it. -/
theorem classify_of_notification (n : Notification) {frame : Value}
    (same : ∀ key, frame.get? key = Value.get? (.object n.members) key) :
    classify frame = some (.notification n.method n.params) := by
  rw [classify_eq_notification_iff]
  refine .notification ?_ ?_ ?_
  · rw [← Value.get?_isSome_iff, same]
    obtain ⟨method, params⟩ := n
    cases params <;> simp [Notification.members, paramsMember, Members.get?_cons]
  · rw [← Value.get?_eq_some_iff, same]
    simp [Notification.members, Members.get?_cons]
  · rw [← Value.get?_eq_iff, same]
    simp [Notification.members, Members.get?_cons, get?_paramsMember]

/-- What has a result or an error and no method is a response if its id is a number of 64 bits, and
otherwise nothing. -/
theorem classify_reply_iff {frame id : Value} {incoming : Incoming}
    (numbered : frame.get? "id" = some id) (unnamed : frame.get? "method" = none)
    (settled : frame.Has "result" ∨ frame.Has "error") :
    classify frame = some incoming ↔
      ∃ n : Nat, n < Nat.pow 2 64 ∧ id = .int n ∧ incoming = .response n frame := by
  -- without a method it is no request and no notification, whatever its id
  have anonymous (method : Value) : ¬frame.Holds "method" method := by
    rw [← Value.get?_eq_some_iff, unnamed]
    exact Option.some_ne_none method ∘ Eq.symm
  have theirs (v : Value) : frame.Holds "id" v ↔ id = v := by
    rw [← Value.get?_eq_some_iff, numbered, Option.some.injEq]
  rw [classify_eq_some_iff]
  constructor
  · intro shape
    cases shape with
    | response numbered fits => exact ⟨_, fits, (theirs _).mp numbered, rfl⟩
    | request _ named => exact absurd named (anonymous _)
    | notification _ named => exact absurd named (anonymous _)
  · rintro ⟨n, fits, number, rfl⟩
    exact .response ((theirs _).mpr number) fits settled fun _ => anonymous _

/-- **A value is taken for what its members make it, and so for what it was written as.** Every
value is taken for a response, a request or a notification exactly if it has that shape, and for
nothing if it has none. So a request and a notification come back with their id, method and
parameters, be the latter absent or null, in the written order of the members as in the order of the
keys; and a reply comes back whole, as a response to its id, exactly if that is a natural number of
64 bits. -/
theorem classified_by_members :
    (∀ (frame : Value) (incoming : Incoming),
      classify frame = some incoming ↔ Shape frame incoming) ∧
    (∀ frame : Value, classify frame = none ↔ ∀ incoming, ¬Shape frame incoming) ∧
    (∀ r : Request,
      classify r.toValue = some (.request (.int r.id) r.method r.params) ∧
      classify (.object r.members) = some (.request (.int r.id) r.method r.params)) ∧
    (∀ n : Notification,
      classify n.toValue = some (.notification n.method n.params) ∧
      classify (.object n.members) = some (.notification n.method n.params)) ∧
    (∀ (id result : Value) (incoming : Incoming),
      classify (resultResponse id result) = some incoming ↔
        ∃ n : Nat, n < Nat.pow 2 64 ∧ id = .int n ∧
          incoming = .response n (resultResponse id result)) ∧
    (∀ (id : Value) (code : Int) (message : String) (incoming : Incoming),
      classify (errorResponse id code message) = some incoming ↔
        ∃ n : Nat, n < Nat.pow 2 64 ∧ id = .int n ∧
          incoming = .response n (errorResponse id code message)) := by
  refine ⟨fun _ _ => classify_eq_some_iff, fun frame => ?_, fun r => ⟨?_, ?_⟩, fun n => ⟨?_, ?_⟩,
    fun id result incoming => ?_, fun id code message incoming => ?_⟩
  · rw [Option.eq_none_iff_forall_ne_some]
    exact forall_congr' fun _ => not_congr classify_eq_some_iff
  · exact classify_of_request r fun key => r.get?_toValue key
  · exact classify_of_request r fun _ => rfl
  · exact classify_of_notification n fun key => n.get?_toValue key
  · exact classify_of_notification n fun _ => rfl
  · obtain ⟨numbered, settled, -⟩ := get?_resultResponse id result
    refine classify_reply_iff numbered ?_ (.inl ⟨result, Value.get?_eq_some_iff.mp settled⟩)
    simp [resultResponse, Members.get?_cons]
  · obtain ⟨numbered, -, error, settled, -⟩ := get?_errorResponse id code message
    refine classify_reply_iff numbered ?_ (.inr ⟨error, Value.get?_eq_some_iff.mp settled⟩)
    simp [errorResponse, Members.get?_cons]

end Rpc

end ToolingHost
