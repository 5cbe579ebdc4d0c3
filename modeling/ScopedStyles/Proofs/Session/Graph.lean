import Mathlib.Logic.Function.Basic
import ScopedStyles.Proofs.Session.Commits

/-! # The module graph of a live server

A dev server keeps the modules that the host has loaded: a cached body for each id, and whether it
is stale.  A `Live` session is a session with one server, attached before anything else and never
replaced, with the server's graph and the replies that are on their way back.  The server's work on
a call and the return of its reply are steps of their own (`Live.Step`), so a load, a removal or
another transform may come between any two of them.  No transform is dropped.

In every live session, a module that is not stale and caches something else than a load would yield
now is owed an invalidation by a transform in flight, which has written a modification under the
module's token and whose invalidation the server has not carried out.  With no transform in flight,
the graph agrees with the registry (`Coherent`). -/

namespace ScopedStyles

open History

variable {S : Type}

/-! ### The server -/

/-- What a server keeps of a module. -/
structure CachedModule where
  body : LoadedModule
  stale : Bool
deriving DecidableEq

/-- The modules that a server keeps, by their ids. -/
abbrev ModuleGraph := String → Option CachedModule

namespace ModuleGraph

def empty : ModuleGraph := fun _ => none

/-- A module is loaded and cached as fresh. -/
def cache (g : ModuleGraph) (id : String) (body : LoadedModule) : ModuleGraph :=
  Function.update g id (some ⟨body, false⟩)

def remove (g : ModuleGraph) (id : String) : ModuleGraph := Function.update g id none

/-- A module is marked as stale, if it is there. -/
def invalidate (g : ModuleGraph) (id : String) : ModuleGraph :=
  Function.update g id ((g id).map fun m => { m with stale := true })

/-- The answer to a lookup is the truth. -/
def lookup (g : ModuleGraph) (id : String) : Option String := (g id).map fun _ => id

theorem cache_self (g : ModuleGraph) (id : String) (body : LoadedModule) :
    g.cache id body id = some ⟨body, false⟩ :=
  Function.update_self ..

end ModuleGraph

/-- `Serves g call reply g'`: a server with the modules `g` carries out a call, replies, and has the
modules `g'` then.  Nothing is assumed of its clock, and sending may fail. -/
inductive Serves (g : ModuleGraph) : ServerCall → ServerReply → ModuleGraph → Prop
  | lookup (id : String) : Serves g (.lookup id) (.found (g.lookup id)) g
  | invalidate (id : String) (now : UInt64) :
      Serves g (.invalidate id) (.invalidated now) (g.invalidate id)
  | send (payload : Payload) (failure : Option String) :
      Serves g (.send payload) (.sent failure) g

theorem Serves.notice_cases {g g' : ModuleGraph} {notice : Notice S} {reply : ServerReply}
    (h : Serves g notice.call reply g') :
    (notice.stage = .lookup ∧ g' = g ∧
        ((g notice.address = none ∧ reply = .found none) ∨
          (g notice.address ≠ none ∧ reply = .found (some notice.address)))) ∨
      (∃ m now, notice.stage = .invalidate m ∧ g' = g.invalidate m ∧ reply = .invalidated now) ∨
      ∃ p failure, notice.stage = .send p ∧ g' = g ∧ reply = .sent failure := by
  unfold Notice.call at h
  cases hst : notice.stage with
  | lookup =>
      rw [hst] at h
      cases h
      refine .inl ⟨rfl, rfl, ?_⟩
      unfold ModuleGraph.lookup
      cases g notice.address <;> simp
  | invalidate m =>
      rw [hst] at h
      cases h
      exact .inr (.inl ⟨m, _, rfl, rfl, rfl⟩)
  | send p =>
      rw [hst] at h
      cases h
      exact .inr (.inr ⟨p, _, rfl, rfl, rfl⟩)

/-! ### Live sessions -/

/-- A session with its server: the modules of the server, and by transform the reply that the server
has sent and the transform has not taken up. -/
structure Live (S : Type) where
  session : Session S
  graph : ModuleGraph
  replies : Nat → Option ServerReply

/-- The events of a session in which its server has no part. -/
def Event.isLocal : Event S → Bool
  | .replied .. | .drop _ | .attach _ => false
  | _ => true

namespace Live

/-- `Step l u l'`: a step of a live session; `u` is the session's turn, if it takes one. -/
inductive Step (l : Live S) : Option (Turn S) → Live S → Prop
  /-- A transform starts, is answered by the generator or polled, or the host asks for something
  that it does not keep. -/
  | turn {e : Event S} {r : Stepped S} :
      e.isLocal = true → l.session.step e = some r →
      Step l (some ⟨l.session, e, r⟩) { l with session := r.session }
  /-- The host loads a virtual module, and the server keeps it. -/
  | load {id : String} {r : Stepped S} {body : LoadedModule} :
      l.session.step (.load id) = some r → r.answer = .loaded (some body) →
      Step l (some ⟨l.session, .load id, r⟩)
        { l with session := r.session, graph := l.graph.cache id body }
  /-- The server carries out the call that a transform waits for. -/
  | serve {n : Nat} {notice : Notice S} {output : Output} {reply : ServerReply} {g : ModuleGraph} :
      l.session.flight? n = some (.notifying notice output) → l.replies n = none →
      Serves l.graph notice.call reply g →
      Step l none { l with graph := g, replies := Function.update l.replies n (some reply) }
  /-- A transform takes up a reply. -/
  | deliver {n : Nat} {reply : ServerReply} {r : Stepped S} :
      l.replies n = some reply → l.session.step (.replied n reply) = some r →
      Step l (some ⟨l.session, .replied n reply, r⟩)
        { l with session := r.session, replies := Function.update l.replies n none }
  /-- A module is removed. -/
  | remove (id : String) : Step l none { l with graph := l.graph.remove id }
  /-- The host loads a module that is not virtual, from wherever it comes. -/
  | other {id : String} (body : LoadedModule) :
      Address.isVirtual id = false → Step l none { l with graph := l.graph.cache id body }

end Live

/-- `LiveRun filter server h l`: a run of a session with `server` attached at first leads to `l`,
and `h` are the turns of the session. -/
inductive LiveRun (filter : Filter) (server : S) : History S → Live S → Prop
  | attached {r : Stepped S} :
      (Session.fresh filter).step (.attach server) = some r →
      LiveRun filter server [⟨.fresh filter, .attach server, r⟩] ⟨r.session, .empty, fun _ => none⟩
  | turn {h : History S} {l l' : Live S} {u : Turn S} :
      LiveRun filter server h l → l.Step (some u) l' →
      (∀ n, u.event.starts? = some n → ∀ v ∈ h, v.event.flight? ≠ some n) →
      LiveRun filter server (h ++ [u]) l'
  | aside {h : History S} {l l' : Live S} :
      LiveRun filter server h l → l.Step none l' → LiveRun filter server h l'

namespace LiveRun

variable {filter : Filter} {server : S} {h : History S} {l : Live S}

theorem run (lr : LiveRun filter server h l) : Run filter h l.session := by
  induction lr with
  | attached hstep => exact Run.fresh.turn hstep fun n hn => by cases hn
  | turn _ hs hnew ih =>
      cases hs with
      | turn _ hstep => exact ih.turn hstep hnew
      | load hstep _ => exact ih.turn hstep hnew
      | deliver _ hstep => exact ih.turn hstep hnew
  | aside _ hs ih => cases hs <;> exact ih

end LiveRun

/-! ### The invariant -/

namespace Live

/-- The module at `id` is not stale, and a load would yield something else. -/
def Outdated (l : Live S) (id : String) : Prop :=
  ∃ m, l.graph id = some m ∧ m.stale = false ∧ l.session.registry.load id ≠ some m.body

/-- Transform `n` carries news of the module at `id`, and the server has neither replied that it
does not know the module nor invalidated it. -/
def Owes (l : Live S) (n : Nat) (id : String) : Prop :=
  ∃ notice output, l.session.flight? n = some (.notifying notice output) ∧ notice.address = id ∧
    ((notice.stage = .lookup ∧ l.replies n ≠ some (.found none)) ∨
      (notice.stage = .invalidate id ∧ l.replies n = none))

/-- Where a transform stands and the reply on its way to it fit together: only a transform that
waits for the server has a reply coming, a module found is the one it looks for, and it has the
module invalidated that it carries news of. -/
def Fits (f : Option (Flight S)) (r : Option ServerReply) : Prop :=
  (∀ reply, r = some reply → ∃ notice output, f = some (.notifying notice output) ∧
    ∀ m, reply = .found (some m) → m = notice.address) ∧
  ∀ notice output m, f = some (.notifying notice output) → notice.stage = .invalidate m →
    m = notice.address

/-- What every step of a live session preserves. -/
structure Invariant (server : S) (l : Live S) : Prop where
  attached : l.session.notifier.server = some server
  fits : ∀ n, Fits (l.session.flight? n) (l.replies n)
  owed : ∀ id, Address.isVirtual id = true → l.Outdated id → ∃ n, l.Owes n id

variable {server : S} {l l' : Live S} {n : Nat} {id : String}

theorem Outdated.congr (h : l.Outdated id) (hg : l'.graph id = l.graph id)
    (hr : l'.session.registry.load id = l.session.registry.load id) : l'.Outdated id := by
  obtain ⟨m, hm, hs, hb⟩ := h
  exact ⟨m, hg.trans hm, hs, hr ▸ hb⟩

theorem Owes.congr (h : l.Owes n id) (hf : l'.session.flight? n = l.session.flight? n)
    (hr : l'.replies n = l.replies n) : l'.Owes n id := by
  obtain ⟨notice, output, hn, ha, hs⟩ := h
  refine ⟨notice, output, hf.trans hn, ha, ?_⟩
  rw [hr]
  exact hs

/-- A transform that owes an invalidation and has a reply coming waits for the lookup, and the
module was found. -/
theorem Owes.of_reply {notice : Notice S} {output : Output} {reply : ServerReply}
    (h : l.Owes n id) (hf : l.session.flight? n = some (.notifying notice output))
    (hr : l.replies n = some reply) :
    notice.address = id ∧ notice.stage = .lookup ∧ reply ≠ .found none := by
  obtain ⟨notice', output', hf', ha, hs⟩ := h
  rw [hf] at hf'
  cases hf'
  rcases hs with ⟨hs, hne⟩ | ⟨-, hnone⟩
  · exact ⟨ha, hs, fun e => hne (hr.trans (congrArg some e))⟩
  · rw [hr] at hnone
    cases hnone

end Live

/-! ### Steps of the session -/

namespace Session.Takes

variable {s : Session S} {e : Event S} {r : Stepped S} {server : S}

/-- With a server attached, a step in which it has no part leaves the registry and every transform
that waits for the server alone, or it writes a modification and one transform sets out to tell of
it. -/
theorem local_cases (ht : Takes s e r) (he : e.isLocal = true)
    (hv : s.notifier.server = some server) :
    r.session.notifier.server = some server ∧
      ((r.session.registry = s.registry ∧ ∀ n notice output,
          r.session.flight? n = some (.notifying notice output) ↔
            s.flight? n = some (.notifying notice output)) ∨
        ∃ (n : Nat) (code id : String) (artifact : Option String),
          s.flight? n = some (.generating code id) ∧
          r.session = (s.stored id artifact).fly n
            (.notifying ⟨Token.ofIdentity id, server, .lookup⟩ (outputOf code id))) := by
  -- A flight that is not of this kind before and after does not matter to those that are.
  have aside {n : Nat} {f f' : Option (Flight S)} (hn : s.flight? n = f)
      (hf : ∀ notice output, f ≠ some (.notifying notice output))
      (hf' : ∀ notice output, f' ≠ some (.notifying notice output)) (m : Nat) (notice : Notice S)
      (output : Output) :
      (if m = n then f' else s.flight? m) = some (.notifying notice output) ↔
        s.flight? m = some (.notifying notice output) := by
    by_cases hm : m = n
    · subst hm
      rw [if_pos rfl, hn]
      exact ⟨fun h => absurd h (hf' _ _), fun h => absurd h (hf _ _)⟩
    · rw [if_neg hm]
  cases ht with
  | skip hn _ => exact ⟨hv, .inl ⟨rfl, fun _ _ _ => Iff.rfl⟩⟩
  | launch hn _ =>
      refine ⟨hv, .inl ⟨rfl, fun m notice output => ?_⟩⟩
      rw [flight?_fly]
      exact aside hn (by simp) (by simp) m notice output
  | fail hn =>
      refine ⟨hv, .inl ⟨rfl, fun m notice output => ?_⟩⟩
      rw [flight?_land]
      exact aside hn (by simp) (by simp) m notice output
  | pass hn _ =>
      refine ⟨hv, .inl ⟨rfl, fun m notice output => ?_⟩⟩
      rw [flight?_land]
      exact aside hn (by simp) (by simp) m notice output
  | settle hn _ hq =>
      have hu := hq.resolve_right (by simp [hv])
      refine ⟨hv, .inl ⟨Registry.put_of_unchanged hu, fun m notice output => ?_⟩⟩
      rw [flight?_land]
      exact aside hn (by simp) (by simp) m notice output
  | @notify n code id artifact server' hn _ _ hv' =>
      obtain rfl : server = server' := Option.some.inj (hv.symm.trans hv')
      exact ⟨hv, .inr ⟨n, code, id, artifact, hn, rfl⟩⟩
  | poll hn => exact ⟨hv, .inl ⟨rfl, fun _ _ _ => Iff.rfl⟩⟩
  | load id => exact ⟨hv, .inl ⟨rfl, fun _ _ _ => Iff.rfl⟩⟩
  | resolve id => exact ⟨hv, .inl ⟨rfl, fun _ _ _ => Iff.rfl⟩⟩
  | advance _ _ => cases he
  | finish _ _ => cases he
  | drop _ => cases he
  | attach _ => cases he

end Session.Takes

namespace Live.Invariant

variable {server : S} {l l' : Live S} {n : Nat} {reply : ServerReply} {notice : Notice S}
  {output : Output}

/-- A transform that does not wait for the server has no reply coming and owes nothing. -/
theorem idle (inv : Invariant server l)
    (hn : ∀ notice output, l.session.flight? n ≠ some (.notifying notice output)) :
    l.replies n = none ∧ ∀ id, ¬ l.Owes n id := by
  constructor
  · cases hr : l.replies n with
    | none => rfl
    | some reply =>
        obtain ⟨notice, output, hf, -⟩ := (inv.fits n).1 reply hr
        exact absurd hf (hn notice output)
  · rintro id ⟨notice, output, hf, -⟩
    exact hn notice output hf

/-- A session that goes on with the same registry and the same transforms that wait for the server.
-/
theorem same (inv : Invariant server l) {s : Session S} (hv : s.notifier.server = some server)
    (hr : s.registry = l.session.registry)
    (hf : ∀ n notice output, s.flight? n = some (.notifying notice output) ↔
      l.session.flight? n = some (.notifying notice output)) :
    Invariant server { l with session := s } where
  attached := hv
  fits n := by
    constructor
    · intro reply hn
      obtain ⟨notice, output, hfl, hm⟩ := (inv.fits n).1 reply hn
      exact ⟨notice, output, (hf n notice output).mpr hfl, hm⟩
    · intro notice output m hfl
      exact (inv.fits n).2 notice output m ((hf n notice output).mp hfl)
  owed id hid ho := by
    have ho' : l.Outdated id := ho.congr rfl (congrArg (Registry.load · id) hr.symm)
    obtain ⟨n, notice, output, hfl, ha, hs⟩ := inv.owed id hid ho'
    exact ⟨n, notice, output, (hf n notice output).mpr hfl, ha, hs⟩

/-- A step that concerns one transform: it remains to look at that one. -/
theorem one (inv : Invariant server l) (n : Nat)
    (hv : l'.session.notifier = l.session.notifier)
    (hf : ∀ m, m ≠ n → l'.session.flight? m = l.session.flight? m)
    (hr : ∀ m, m ≠ n → l'.replies m = l.replies m)
    (hn : Fits (l'.session.flight? n) (l'.replies n))
    (ho : ∀ id, l'.Outdated id → l'.Owes n id ∨ l.Outdated id ∧ (l.Owes n id → l'.Owes n id)) :
    Invariant server l' where
  attached := hv ▸ inv.attached
  fits m := by
    by_cases hm : m = n
    · exact hm ▸ hn
    · rw [hf m hm, hr m hm]
      exact inv.fits m
  owed id hid hout := by
    rcases ho id hout with howes | ⟨hout', hkeep⟩
    · exact ⟨n, howes⟩
    · obtain ⟨m, howes⟩ := inv.owed id hid hout'
      refine ⟨m, ?_⟩
      by_cases hm : m = n
      · subst hm
        exact hkeep howes
      · exact howes.congr (hf m hm) (hr m hm)

/-- A modification is written, and a transform sets out to tell of it. -/
theorem notify (inv : Invariant server l) {code id : String} (artifact : Option String)
    (hn : l.session.flight? n = some (.generating code id)) :
    Invariant server { l with
      session := (l.session.stored id artifact).fly n
        (.notifying ⟨Token.ofIdentity id, server, .lookup⟩ (outputOf code id)) } := by
  obtain ⟨hr, hno⟩ := inv.idle (n := n) (by simp [hn])
  have hself := Session.flight?_fly_self (l.session.stored id artifact) n
    (.notifying ⟨Token.ofIdentity id, server, .lookup⟩ (outputOf code id))
  refine inv.one n rfl (fun m hm => ?_) (fun _ _ => rfl) ⟨?_, ?_⟩ fun id' ho => ?_
  · exact Session.flight?_fly_of_ne _ _ hm
  · intro reply h
    exact absurd h (by simp [hr])
  · intro notice output m h hs
    rw [hself] at h
    cases h
    cases hs
  · by_cases he : id' = Address.ofToken (Token.ofIdentity id)
    · exact .inl ⟨_, _, hself, he.symm, .inl ⟨rfl, by simp [hr]⟩⟩
    · have hload : l.session.registry.load id' =
          (l.session.registry.put (Token.ofIdentity id) ⟨id, artifact⟩).1.load id' := by
        refine Registry.load_congr fun t ht => (Registry.get?_put_of_ne _ _ ?_).symm
        rintro rfl
        exact he ht
      exact .inr ⟨ho.congr rfl hload, fun h => absurd h (hno id')⟩

theorem advance (inv : Invariant server l) {next : Notice S} (hr : l.replies n = some reply)
    (hn : l.session.flight? n = some (.notifying notice output))
    (ha : notice.answer reply = some (.next next)) :
    Invariant server { l with
      session := l.session.fly n (.notifying next output)
      replies := Function.update l.replies n none } := by
  obtain ⟨htok, -, hstage⟩ := Notice.answer_eq_next ha
  have haddr : next.address = notice.address := congrArg Address.ofToken htok
  have hself := Session.flight?_fly_self l.session n (.notifying next output)
  -- The module that it goes on to have invalidated was found under its own address.
  have htarget : ∀ m, next.stage = .invalidate m → m = notice.address := by
    intro m hs
    obtain ⟨notice', output', hn', hfound⟩ := (inv.fits n).1 reply hr
    rw [hn] at hn'
    cases hn'
    rcases hstage with ⟨m', -, hm', hs'⟩ | ⟨_, _, -, -, hs'⟩
    · rw [hs'] at hs
      cases hs
      exact hfound _ hm'
    · rw [hs'] at hs
      cases hs
  refine inv.one n rfl (fun m hm => ?_) (fun m hm => Function.update_of_ne hm ..) ⟨?_, ?_⟩
    fun id ho => .inr ⟨ho.congr rfl rfl, fun howes => ?_⟩
  · exact Session.flight?_fly_of_ne _ _ hm
  · intro reply' h
    simp at h
  · intro notice' output' m h hs
    rw [hself] at h
    cases h
    rw [haddr]
    exact htarget m hs
  · obtain ⟨hid, hl, -⟩ := howes.of_reply hn hr
    refine ⟨next, output, hself, haddr.trans hid, .inr ⟨?_, Function.update_self ..⟩⟩
    rcases hstage with ⟨m, -, -, hs⟩ | ⟨_, _, hs, -⟩
    · rw [hs, htarget m hs, hid]
    · rw [hl] at hs
      cases hs

theorem finish (inv : Invariant server l) {sent : Bool} {entry : LogEntry}
    (hr : l.replies n = some reply) (hn : l.session.flight? n = some (.notifying notice output))
    (ha : notice.answer reply = some (.over sent entry)) :
    Invariant server { l with
      session := l.session.land n, replies := Function.update l.replies n none } := by
  have hself := Session.flight?_land_self l.session n
  refine inv.one n rfl (fun m hm => ?_) (fun m hm => Function.update_of_ne hm ..) ⟨?_, ?_⟩
    fun id ho => .inr ⟨ho.congr rfl rfl, fun howes => ?_⟩
  · exact Session.flight?_land_of_ne _ hm
  · intro reply' h
    simp at h
  · intro notice' output' m h
    rw [hself] at h
    cases h
  · -- It owes nothing any more: the module was not found, or the update has been sent.
    obtain ⟨-, hl, hne⟩ := howes.of_reply hn hr
    rcases Notice.answer_eq_over ha with ⟨-, h, -, -⟩ | ⟨_, h, -⟩ | ⟨_, _, h, -⟩
    · exact absurd h hne
    · rw [hl] at h
      cases h
    · rw [hl] at h
      cases h

theorem serve (inv : Invariant server l) {g : ModuleGraph}
    (hn : l.session.flight? n = some (.notifying notice output))
    (hs : Serves l.graph notice.call reply g) :
    Invariant server
      { l with graph := g, replies := Function.update l.replies n (some reply) } := by
  have hself : Function.update l.replies n (some reply) n = some reply := Function.update_self ..
  refine inv.one n rfl (fun _ _ => rfl) (fun m hm => Function.update_of_ne hm ..)
    ⟨fun reply' h => ⟨notice, output, hn, ?_⟩, (inv.fits n).2⟩ fun id ho => ?_
  · obtain rfl : reply = reply' := Option.some.inj (hself.symm.trans h)
    rcases hs.notice_cases with ⟨-, -, ⟨-, h⟩ | ⟨-, h⟩⟩ | ⟨_, _, -, -, h⟩ | ⟨_, _, -, -, h⟩ <;>
      simp [h]
  · rcases hs.notice_cases with ⟨hst, rfl, hl⟩ | ⟨m, now, hst, rfl, -⟩ | ⟨p, failure, hst, rfl, -⟩
    · refine .inr ⟨ho.congr rfl rfl, fun howes => ?_⟩
      obtain ⟨notice', output', hn', ha, -⟩ := howes
      rw [hn] at hn'
      cases hn'
      refine ⟨notice, output, hn, ha, .inl ⟨hst, fun h => ?_⟩⟩
      -- A module that is in the graph is found.
      obtain rfl : reply = .found none := Option.some.inj (hself.symm.trans h)
      obtain ⟨m, hm, -⟩ := ho
      rcases hl with ⟨hnone, -⟩ | ⟨-, h⟩
      · rw [ha, hm] at hnone
        cases hnone
      · cases h
    · -- The module that is invalidated is stale now, and this transform owed no other.
      have hid : id ≠ m := by
        rintro rfl
        obtain ⟨c, hc, hstale, -⟩ := ho
        simp only [ModuleGraph.invalidate, Function.update_self] at hc
        obtain ⟨c', -, rfl⟩ := Option.map_eq_some_iff.mp hc
        cases hstale
      refine .inr ⟨ho.congr (Function.update_of_ne hid ..).symm rfl, fun howes => ?_⟩
      obtain ⟨notice', output', hn', -, hst'⟩ := howes
      rw [hn] at hn'
      cases hn'
      rw [hst] at hst'
      rcases hst' with ⟨h, -⟩ | ⟨h, -⟩
      · cases h
      · cases h
        exact absurd rfl hid
    · refine .inr ⟨ho.congr rfl rfl, fun howes => ?_⟩
      obtain ⟨notice', output', hn', -, hst'⟩ := howes
      rw [hn] at hn'
      cases hn'
      rw [hst] at hst'
      rcases hst' with ⟨h, -⟩ | ⟨h, -⟩ <;> cases h

/-- A step that changes the module at one id, and leaves nothing outdated there. -/
theorem graph (inv : Invariant server l) {id : String} {m : Option CachedModule}
    (hm : Address.isVirtual id = true → ∀ c, m = some c → c.stale = false →
      l.session.registry.load id = some c.body) :
    Invariant server { l with graph := Function.update l.graph id m } where
  attached := inv.attached
  fits := inv.fits
  owed id' hid ho := by
    by_cases he : id' = id
    · subst he
      obtain ⟨c, hc, hs, hb⟩ := ho
      simp only [Function.update_self] at hc
      exact absurd (hm hid c hc hs) hb
    · have ho' : l.Outdated id' := ho.congr (Function.update_of_ne he ..).symm rfl
      obtain ⟨n, howes⟩ := inv.owed id' hid ho'
      exact ⟨n, howes.congr rfl rfl⟩

theorem step (inv : Invariant server l) {u : Option (Turn S)} (hs : l.Step u l') :
    Invariant server l' := by
  cases hs with
  | turn he hstep =>
      obtain ⟨hv, ⟨hr, hf⟩ | ⟨n, code, id, artifact, hn, hs⟩⟩ :=
        (Session.takes_of_step hstep).local_cases he inv.attached
      · exact inv.same hv hr hf
      · rw [hs]
        exact inv.notify artifact hn
  | @load id r body hstep hb =>
      cases Session.takes_of_step hstep with
      | load _ =>
          refine inv.graph fun _ c hc _ => ?_
          cases hc
          exact Answer.loaded.inj hb
  | serve hn _ hs => exact inv.serve hn hs
  | deliver hr hstep =>
      cases Session.takes_of_step hstep with
      | advance hn ha => exact inv.advance hr hn ha
      | finish hn ha => exact inv.finish hr hn ha
  | remove id => exact inv.graph fun _ c hc _ => by cases hc
  | other body hid => exact inv.graph fun hv => by rw [hid] at hv; cases hv

end Live.Invariant

/-! ### The main statement -/

theorem LiveRun.invariant {filter : Filter} {server : S} {h : History S} {l : Live S}
    (lr : LiveRun filter server h l) : l.Invariant server := by
  induction lr with
  | attached hstep =>
      cases Session.takes_of_step hstep with
      | attach _ =>
          refine ⟨rfl, fun n => ⟨fun reply hr => ?_, fun notice output m hn => ?_⟩,
            fun id _ ho => ?_⟩
          · cases hr
          · cases hn
          · obtain ⟨m, hm, -⟩ := ho
            cases hm
  | turn _ hs _ ih => exact ih.step hs
  | aside _ hs ih => exact ih.step hs

theorem LiveRun.server_eq {filter : Filter} {server : S} {h : History S} {l : Live S}
    (lr : LiveRun filter server h l) {u : Turn S} (hu : u ∈ h) {v : S}
    (hv : u.before.notifier.server = some v) : v = server := by
  induction lr with
  | attached _ =>
      obtain rfl := List.mem_singleton.mp hu
      cases hv
  | @turn h l l' w lr hs _ ih =>
      rcases List.mem_append.mp hu with hu | hu
      · exact ih hu
      · obtain rfl := List.mem_singleton.mp hu
        have hb : u.before = l.session := by
          cases hs <;> rfl
        rw [hb, lr.invariant.attached] at hv
        exact (Option.some.inj hv).symm
  | aside _ _ ih => exact ih hu

/-- The module graph of `server` agrees with the registry, up to invalidations that are owed. -/
structure Coherent (server : S) (h : History S) (l : Live S) : Prop where
  /-- A virtual module that is not stale and does not cache what a load yields now is owed an
  invalidation by a transform in flight, which has written a modification under the token of the
  module. -/
  owed : ∀ id m, Address.isVirtual id = true → l.graph id = some m → m.stale = false →
    l.session.registry.load id ≠ some m.body →
    ∃ n c, l.Owes n id ∧ commits (turnsOf h n) = [c] ∧ Address.ofToken c.token = id ∧
      ∃ u ∈ turnsOf h n, u.Announces c server
  /-- With no transform in flight, a virtual module that is not stale caches what a load yields. -/
  quiet : (∀ n, l.session.flight? n = none) → ∀ id m, Address.isVirtual id = true →
    l.graph id = some m → m.stale = false → l.session.registry.load id = some m.body

/-- **The graph of a live server is coherent with the registry.** -/
theorem LiveRun.coherent {filter : Filter} {server : S} {h : History S} {l : Live S}
    (lr : LiveRun filter server h l) : Coherent server h l where
  owed id m hid hm hs hb := by
    obtain ⟨n, howes⟩ := lr.invariant.owed id hid ⟨m, hm, hs, hb⟩
    have ⟨notice, output, hn, ha, _⟩ := howes
    have hl := lr.run.life n
    rw [hn] at hl
    cases hl with
    | @notifying c _ _ _ hc hv ht _ _ _ =>
        obtain ⟨u, hu, hann⟩ := hv
        have hserver : notice.server = server := lr.server_eq (mem_turnsOf.mp hu).1 hann.2.2
        exact ⟨n, c, howes, hc, ht ▸ ha, u, hu, hserver ▸ hann⟩
  quiet hq id m hid hm hs := by
    by_cases hb : l.session.registry.load id = some m.body
    · exact hb
    · obtain ⟨n, notice, output, hn, -⟩ := lr.invariant.owed id hid ⟨m, hm, hs, hb⟩
      rw [hq n] at hn
      cases hn

/-- A module that was loaded too early is owed an invalidation by the transform that writes it. -/
theorem coherent_early_load :
    ∃ (h : History String) (l : Live String) (m : CachedModule),
      LiveRun .all "v" h l ∧ l.graph (Address.ofToken (.ofIdentity "/src/a.ts")) = some m ∧
      m.stale = false ∧
      l.session.registry.load (Address.ofToken (.ofIdentity "/src/a.ts")) ≠ some m.body ∧
      Coherent "v" h l := by
  have hload : Registry.empty.load (Address.ofToken (.ofIdentity "/src/a.ts")) =
      some LoadedModule.empty := Registry.load_ofToken _ _
  have lr := LiveRun.attached (Session.step_of_takes (.attach (s := .fresh .all) "v"))
  replace lr := lr.turn (.turn (e := .start 0 "" "/src/a.ts") rfl
    (Session.step_of_takes (.launch rfl (by decide +kernel)))) (by simp [Event.flight?])
  replace lr := lr.turn (.load (Session.step_of_takes (.load _)) (congrArg Answer.loaded hload))
    (by simp [Event.starts?])
  replace lr := lr.turn (.turn (e := .generated 0 (.ok (some "x"))) rfl
    (Session.step_of_takes (.notify rfl (by decide) (by decide +kernel) rfl)))
    (by simp [Event.starts?])
  refine ⟨_, _, ⟨LoadedModule.empty, false⟩, lr, ?_, rfl, ?_, lr.coherent⟩
  · simp only [ModuleGraph.cache_self]
  · rw [Session.registry_fly, Session.registry_stored, Registry.load_ofToken,
      Registry.get?_put_self]
    decide +kernel

end ScopedStyles
