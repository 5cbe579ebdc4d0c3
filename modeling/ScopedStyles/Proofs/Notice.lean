import ScopedStyles.Notifier

/-! # The course of a notice

A notice goes through its stages in one order: a lookup of the address; then the invalidation of the
module found, whatever its id; then the sending of one update of the address.  `Course` says which
replies it has got and which calls it has made when it stands somewhere, and a reply takes it one
place further (`Course.advance`, `Course.finish`).  `Trail` is what a course shows of the calls
alone, which are always an initial part of those three (`Trail.initial`). -/

namespace ScopedStyles

variable {S : Type}

namespace Notice

variable {notice next : Notice S} {reply : ServerReply} {sent : Bool} {entry : LogEntry}

theorem answer_eq_next (h : notice.answer reply = some (.next next)) :
    next.token = notice.token ∧ next.server = notice.server ∧
      ((∃ m, notice.stage = .lookup ∧ reply = .found (some m) ∧ next.stage = .invalidate m) ∨
        ∃ m now, notice.stage = .invalidate m ∧ reply = .invalidated now ∧
          next.stage = .send (.single notice.address now)) := by
  unfold answer at h
  split at h
  · split at h <;> cases h
  · rename_i m
    split at h
    · rename_i hs
      cases h
      exact ⟨rfl, rfl, .inl ⟨m, hs, rfl, rfl⟩⟩
    · cases h
  · rename_i now
    split at h
    · rename_i m hs
      cases h
      exact ⟨rfl, rfl, .inr ⟨m, now, hs, rfl, rfl⟩⟩
    · cases h
  · split at h <;> cases h

theorem answer_eq_over (h : notice.answer reply = some (.over sent entry)) :
    (notice.stage = .lookup ∧ reply = .found none ∧ sent = false ∧
        entry = .notInGraph notice.address) ∨
      (∃ p, notice.stage = .send p ∧ reply = .sent none ∧ sent = true ∧
        entry = .updateSent notice.address) ∨
      ∃ p error, notice.stage = .send p ∧ reply = .sent (some error) ∧ sent = false ∧
        entry = .updateFailed notice.address error := by
  unfold answer at h
  split at h
  · split at h
    · rename_i hs
      cases h
      exact .inl ⟨hs, rfl, rfl, rfl⟩
    · cases h
  · split at h <;> cases h
  · split at h <;> cases h
  · split at h
    · rename_i p hs
      cases h
      exact .inr (.inl ⟨p, hs, rfl, rfl, rfl⟩)
    · rename_i p error hs
      cases h
      exact .inr (.inr ⟨p, error, hs, rfl, rfl, rfl⟩)
    · cases h

end Notice

/-! ### Courses -/

/-- Where a notice stands: it waits at a stage, or it is over and has been sent or not. -/
inductive Stand
  | waits (stage : NoticeStage)
  | done (sent : Bool)

/-- What a notice has returned. -/
def Stand.results : Stand → List Bool
  | waits _ => []
  | done sent => [sent]

/-- The courses of a notice about `address` to `server`: the replies it got, the calls it made, and
where that leaves it. -/
inductive Course (server : S) (address : String) :
    List ServerReply → List (S × ServerCall) → Stand → Prop
  | lookup : Course server address [] [(server, .lookup address)] (.waits .lookup)
  | missing : Course server address [.found none] [(server, .lookup address)] (.done false)
  | invalidate (m : String) :
      Course server address [.found (some m)] [(server, .lookup address), (server, .invalidate m)]
        (.waits (.invalidate m))
  | send (m : String) (now : UInt64) :
      Course server address [.found (some m), .invalidated now]
        [(server, .lookup address), (server, .invalidate m),
          (server, .send (.single address now))]
        (.waits (.send (.single address now)))
  | sent (m : String) (now : UInt64) (failure : Option String) :
      Course server address [.found (some m), .invalidated now, .sent failure]
        [(server, .lookup address), (server, .invalidate m),
          (server, .send (.single address now))]
        (.done failure.isNone)

namespace Course

variable {notice next : Notice S} {replies : List ServerReply} {calls : List (S × ServerCall)}
  {reply : ServerReply} {sent : Bool} {entry : LogEntry}

theorem advance (h : Course notice.server notice.address replies calls (.waits notice.stage))
    (ha : notice.answer reply = some (.next next)) :
    Course notice.server notice.address (replies ++ [reply]) (calls ++ [(next.server, next.call)])
      (.waits next.stage) := by
  obtain ⟨-, hv, ⟨m, hs, rfl, hn⟩ | ⟨m, now, hs, rfl, hn⟩⟩ := Notice.answer_eq_next ha
  · have hc : next.call = .invalidate m := by simp [Notice.call, hn]
    rw [hs] at h
    rw [hn, hc, hv]
    cases h
    exact .invalidate m
  · have hc : next.call = .send (.single notice.address now) := by simp [Notice.call, hn]
    rw [hs] at h
    rw [hn, hc, hv]
    cases h
    exact .send m now

theorem finish (h : Course notice.server notice.address replies calls (.waits notice.stage))
    (ha : notice.answer reply = some (.over sent entry)) :
    Course notice.server notice.address (replies ++ [reply]) calls (.done sent) := by
  rcases Notice.answer_eq_over ha with ⟨hs, rfl, rfl, -⟩ | ⟨p, hs, rfl, rfl, -⟩ |
    ⟨p, error, hs, rfl, rfl, -⟩
  · rw [hs] at h
    cases h
    exact .missing
  · rw [hs] at h
    cases h with
    | send m now => exact .sent m now none
  · rw [hs] at h
    cases h with
    | send m now => exact .sent m now (some error)

/-- The call that a notice waits for is its last one. -/
theorem getLast?_calls
    (h : Course notice.server notice.address replies calls (.waits notice.stage)) :
    calls.getLast? = some (notice.server, notice.call) := by
  cases hs : notice.stage with
  | lookup =>
      rw [hs] at h
      cases h
      simp [Notice.call, hs]
  | invalidate m =>
      rw [hs] at h
      cases h
      simp [Notice.call, hs]
  | send p =>
      rw [hs] at h
      cases h
      simp [Notice.call, hs]

end Course

/-! ### Calls alone -/

/-- The calls that a notice about `address` has made to `server` when it stands at a stage, whatever
the replies were. -/
def Trail (server : S) (address : String) (stage : NoticeStage) (calls : List (S × ServerCall)) :
    Prop :=
  ∃ replies, Course server address replies calls (.waits stage)

namespace Trail

variable {server : S} {address : String} {stage : NoticeStage} {calls : List (S × ServerCall)}

theorem lookup : Trail server address .lookup [(server, .lookup address)] := ⟨[], .lookup⟩

theorem advance {notice next : Notice S} {reply : ServerReply}
    (h : Trail notice.server notice.address notice.stage calls)
    (ha : notice.answer reply = some (.next next)) :
    Trail notice.server notice.address next.stage (calls ++ [(next.server, next.call)]) := by
  obtain ⟨replies, hcourse⟩ := h
  exact ⟨replies ++ [reply], hcourse.advance ha⟩

/-- The calls are an initial part of one lookup, one invalidation and one sending. -/
theorem initial (h : Trail server address stage calls) :
    ∃ m now, calls <+: [(server, .lookup address), (server, .invalidate m),
      (server, .send (.single address now))] := by
  obtain ⟨replies, hcourse⟩ := h
  cases hcourse with
  | lookup => exact ⟨"", 0, ⟨_, rfl⟩⟩
  | invalidate m => exact ⟨m, 0, ⟨_, rfl⟩⟩
  | send m now => exact ⟨m, now, ⟨[], rfl⟩⟩

end Trail
end ScopedStyles
