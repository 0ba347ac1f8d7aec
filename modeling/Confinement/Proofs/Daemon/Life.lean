import Confinement.Daemon.Launch
import Confinement.Proofs.Daemon.Backends
import Confinement.Proofs.Endpoint.Preparation
import Confinement.Proofs.Server.Listening
import Confinement.Proofs.Server.Worlds

/-!
# The socket file of a daemon

Until it has claimed its endpoint, a daemon removes nothing from the file system but a dead socket
at the configured path; anything else found there is kept, and the daemon does not start.  Once it
has claimed the endpoint, it tries to remove its socket file when it ends, however that comes about.
Whether it succeeds is settled when the rights are given up: whoever the daemon is from then on must
be allowed to take the socket file away (`removes_dead_and_own_sockets`).
-/

namespace Confinement

open Host FileTree Policy

variable {tree : FileTree} {path : String} {place : Place} {node : Node}

/-! ## Giving up rights -/

namespace Accounts

variable (accounts : Accounts)

theorem user_changeGroup (group : Nat) (actor : Credentials) :
    (accounts.changeGroup group actor).2.user = actor.user := by
  rw [changeGroup, Action.bind_apply, change]
  cases accounts.switch "setgroups" 0 with
  | error cause => rfl
  | ok done =>
      dsimp only
      rw [change]
      cases accounts.switch "setgid" group with
      | error cause => rfl
      | ok done => rfl

theorem user_of_findUser
    {name : String} {found : Credentials}
    (known : accounts.findUser name = .ok found) :
    accounts.user name = .ok (some found) := by
  rw [findUser] at known
  split at known
  · cases known
  · cases known
  · rename_i told
    cases known
    exact told

/-- A user to switch to is the one that was named. -/
theorem named_of_resolve
    {user group : Option String} {number : Nat} {other : Option Nat}
    (resolved : accounts.resolve user group = .ok (some number, other)) :
    ∃ name found, user = some name ∧ accounts.user name = .ok (some found) ∧
      found.user = number := by
  rw [resolve] at resolved
  obtain ⟨found, known, further⟩ := ok_of_bind resolved
  obtain ⟨named, _, last⟩ := ok_of_bind further
  obtain ⟨switched, _⟩ := Prod.mk.inj (Except.ok.inj last)
  obtain ⟨found, rfl, same⟩ := Option.map_eq_some_iff.1 switched
  cases user with
  | none => cases known
  | some name =>
      rw [Option.mapM_some] at known
      obtain ⟨entry, told, whole⟩ := ok_of_bind known
      cases whole
      exact ⟨name, found, rfl, accounts.user_of_findUser told, same⟩

/-- Who has become another user is the one that was named, and nothing has failed. -/
theorem user_drop (user group : Option String) (actor : Credentials) :
    (accounts.drop user group actor).2.user = actor.user ∨
      (accounts.drop user group actor).1 = .ok () ∧
        ∃ name found, user = some name ∧ accounts.user name = .ok (some found) ∧
          (accounts.drop user group actor).2.user = found.user := by
  rw [drop]
  cases resolved : accounts.resolve user group with
  | error error => exact .inl rfl
  | ok numbers =>
      obtain ⟨number, other⟩ := numbers
      dsimp only
      rw [Action.bind_apply]
      have kept : (other.forM accounts.changeGroup actor).2.user = actor.user := by
        cases other with
        | none => rfl
        | some group => exact accounts.user_changeGroup group actor
      generalize other.forM accounts.changeGroup actor = changed at kept ⊢
      obtain ⟨error | ⟨⟩, middle⟩ := changed
      · exact .inl kept
      · cases number with
        | none => exact .inl kept
        | some number =>
            obtain ⟨name, found, named, known, rfl⟩ := accounts.named_of_resolve resolved
            dsimp only [Option.forM]
            rw [changeUser, change]
            cases accounts.switch "setuid" found.user with
            | error cause => exact .inl kept
            | ok done => exact .inr ⟨rfl, name, found, named, known, rfl⟩

end Accounts

/-! ## Before the claim -/

namespace Endpoint

theorem sound_prepare
    (sound : tree.Sound)
    (endpoint : Endpoint) :
    (endpoint.prepare tree).2.Sound := by
  rcases endpoint.files_prepare tree with same | ⟨parent, made⟩
  · rw [same]
    exact sound
  · rw [made]
    exact (keepsSockets_makeDirectories tree _ parent sound).sound

end Endpoint

namespace Bootstrap

/--
What the start of a daemon may come to: it fails before the file system is touched, or while the
endpoint is prepared, or the endpoint is prepared and listened at.
-/
inductive Reached (network : Network) (loaded : Except Settings.LoadError Settings)
    (files : FileTree) : Except BootstrapError Settings → FileTree → Prop
  | refused (error : BootstrapError) : Reached network loaded files (.error error) files
  | unprepared (settings : Settings) (error : BootstrapError) (given : loaded = .ok settings) :
    Reached network loaded files (.error error) (settings.socket.prepare files).2
  | unbound (settings : Settings) (error : BootstrapError) (fault : ListenerError)
    (next : FileTree) (given : loaded = .ok settings)
    (ended : Listener.bind settings.socket network (settings.socket.prepare files).2 =
      (.error fault, next)) :
    Reached network loaded files (.error error) next
  | bound (settings : Settings) (next : FileTree) (given : loaded = .ok settings)
    (ended : Listener.bind settings.socket network (settings.socket.prepare files).2 =
      (.ok (), next)) :
    Reached network loaded files (.ok settings) next

variable {loaded : Except Settings.LoadError Settings}

/-- A step that only judges stops the start or lets it go on as it was. -/
theorem reached_judge
    {Result : Type} {judged : Except BootstrapError Result} {next : Result → Step Settings}
    {network : Network} {site : Site}
    (onward : ∀ result, judged = .ok result →
      Reached network loaded site.files (next result site).1 (next result site).2.files) :
    Reached network loaded site.files ((judge judged >>= next) site).1
      ((judge judged >>= next) site).2.files := by
  rw [Action.bind_apply, judge]
  cases judged with
  | error error => exact .refused error
  | ok result => exact onward result rfl

theorem reached_prepare (logReady : Bool) (network : Network)
    (loaded : Except Settings.LoadError Settings) (site : Site) :
    Reached network loaded site.files (prepare logReady network loaded site).1
      (prepare logReady network loaded site).2.files := by
  refine reached_judge fun settings judged => reached_judge fun _ _ => reached_judge fun _ _ => ?_
  have given : loaded = .ok settings := by
    cases loaded with
    | error error => cases judged
    | ok other =>
        cases judged
        rfl
  rw [Action.bind_apply, onFiles]
  dsimp only
  cases prepared : settings.socket.prepare site.files with
  | mk result middle =>
      have same : (settings.socket.prepare site.files).2 = middle := by rw [prepared]
      cases result with
      | error error => exact same ▸ .unprepared settings _ given
      | ok done =>
          dsimp only [Except.mapError]
          rw [Action.bind_apply, tell, Action.modify]
          dsimp only
          rw [Action.bind_apply, onFiles]
          dsimp only
          cases ended : Listener.bind settings.socket network middle with
          | mk result next =>
              rw [← same] at ended
              cases result with
              | error fault => exact .unbound settings _ fault next given ended
              | ok done => exact .bound settings next given ended

/-- What is told of the start changes nothing. -/
theorem reached_run (logReady : Bool) (network : Network)
    (loaded : Except Settings.LoadError Settings) (site : Site) :
    Reached network loaded site.files (run logReady network loaded site).1
      (run logReady network loaded site).2.files := by
  have reached := reached_prepare logReady network loaded
    { site with events := site.events ++ [.starting] }
  simp only [run, Bind.bind, Action.andThen, tell, Action.modify]
  generalize prepare logReady network loaded _ = ended at reached ⊢
  obtain ⟨error | settings, next⟩ := ended
  · exact reached
  · exact reached

variable {network : Network} {result : Except BootstrapError Settings} {files next : FileTree}

/-- However far a daemon comes, it takes nothing away but a dead socket at the configured path. -/
theorem Reached.kept
    (reached : Reached network loaded files result next)
    (stands : files.lookup place = some node) :
    next.lookup place = some node ∨
      ∃ settings path, loaded = .ok settings ∧ settings.socket = .unix path ∧
        node = .socket false ∧ Listener.IsDead (settings.socket.prepare files).2 path place := by
  have prepared (settings : Settings) :
      (settings.socket.prepare files).2.lookup place = some node :=
    (settings.socket.furnished_prepare files).extension.kept place node stands
  cases reached with
  | refused error => exact .inl stands
  | unprepared settings error given => exact .inl (prepared settings)
  | unbound settings error fault next given ended | bound settings next given ended =>
      have listened := Listener.kept_bind (prepared settings) settings.socket network
      rw [ended] at listened
      rcases listened with still | ⟨path, unix, same, dead⟩
      · exact .inl still
      · exact .inr ⟨settings, path, given, unix, same, dead⟩

/-- A daemon that does not start leaves nothing behind but directories. -/
theorem Reached.nothing
    {error : BootstrapError}
    (reached : Reached network loaded files (.error error) next)
    (stands : next.lookup place = some node) :
    files.lookup place = some node ∨ node = .directory Endpoint.socketDirectoryMode := by
  have prepared (settings : Settings)
      (present : (settings.socket.prepare files).2.lookup place = some node) :
      files.lookup place = some node ∨ node = .directory Endpoint.socketDirectoryMode := by
    have furnished := settings.socket.furnished_prepare files
    cases before : files.lookup place with
    | none => exact .inr (furnished.added place node before present)
    | some other =>
        rw [furnished.extension.kept place other before] at present
        exact .inl present
  cases reached with
  | refused error => exact .inl stands
  | unprepared settings error given => exact prepared settings stands
  | unbound settings error fault next given failed =>
      exact prepared settings (Listener.nothing_of_bind failed stands)

/-- Where something else stands at the configured path, a daemon does not start and keeps it. -/
theorem Reached.stopped_by_other
    {settings : Settings}
    (reached : Reached network (.ok settings) files result next)
    (unix : settings.socket = .unix path)
    (found : (settings.socket.prepare files).2.locate false path = .ok (.present place node))
    (other : node ≠ .socket false) :
    (∃ error, result = .error error) ∧
      ∀ place node, files.lookup place = some node → next.lookup place = some node := by
  constructor
  · cases reached with
    | refused error => exact ⟨error, rfl⟩
    | unprepared settings error given => exact ⟨error, rfl⟩
    | unbound settings error fault next given ended => exact ⟨error, rfl⟩
    | bound settings next given ended =>
        cases given
        obtain ⟨error, refused⟩ := Listener.bind_refuses found other network
        rw [unix] at ended
        rw [unix, ended] at refused
        cases refused
  · intro spot kept stands
    rcases reached.kept stands with still | ⟨_, _, given, also, _, dead⟩
    · exact still
    · -- A dead socket would be what the path leads to.
      cases given
      rw [unix] at also
      cases also
      rw [dead.leads] at found
      cases found
      exact absurd rfl other

/--
When a daemon has started, the configured path leads to the socket file that it has made, where
there was nothing or a dead socket before; it may take it away.
-/
theorem Reached.leads
    {settings : Settings}
    (reached : Reached network loaded files (.ok settings) next)
    (unix : settings.socket = .unix path)
    (sound : files.Sound) :
    next.Sound ∧ ∃ place, next.locate false path = .ok (.present place (.socket true)) ∧
      next.removalBar? place = none ∧
      ∀ node, files.lookup place = some node → node = .socket false := by
  cases reached with
  | bound settings next given bound =>
      rw [unix] at bound
      obtain ⟨safe, place, leads, bar, before⟩ :=
        Listener.leads_of_bind (Endpoint.sound_prepare sound (.unix path)) bound
      refine ⟨safe, place, leads, bar, fun node stood => before node ?_⟩
      exact (Endpoint.furnished_prepare (.unix path) files).extension.kept place node stood

end Bootstrap

namespace Launch

/-! ## After the claim -/

/-- Serving clients on a machine, in rounds as a schedule gives them. -/
def servingOn (machine : Settings → FileTree → Machine)
    (schedule : Nat → Pool Machine → Moment) (rounds : Nat) : Serving := fun settings files =>
  let (verdict, pool) := Pool.run (hostEnvironment settings) schedule rounds 0
    { options := settings.serverOptions
      shared := { world := { machine settings files with files } } }
  (verdict.result, pool.shared.world.files)

theorem keepsSockets_servingOn (machine : Settings → FileTree → Machine)
    (schedule : Nat → Pool Machine → Moment) (rounds : Nat) (settings : Settings)
    (files : FileTree) :
    files.KeepsSockets (servingOn machine schedule rounds settings files).2 :=
  (keepsSockets_hostEnvironment settings).run schedule rounds 0
    { options := settings.serverOptions
      shared := { world := { machine settings files with files } } }

variable {logReady : Bool} {network : Network} {accounts : Accounts} {serving : Serving}
  {loaded : Except Settings.LoadError Settings} {site next : Site}

theorem reached_of_start
    {settings : Settings}
    (started : start logReady network loaded site = (.ok settings, next)) :
    Bootstrap.Reached network loaded site.files (.ok settings) next.files := by
  have reached := Bootstrap.reached_run logReady network loaded site
  rw [start] at started
  generalize Bootstrap.run logReady network loaded site = ended at reached started
  obtain ⟨error | other, after⟩ := ended
  · cases started
  · cases started
    exact reached

theorem reached_of_failed_start
    {error : LaunchError}
    (failed : start logReady network loaded site = (.error error, next)) :
    ∃ fault, error = .bootstrap fault ∧
      Bootstrap.Reached network loaded site.files (.error fault) next.files := by
  have reached := Bootstrap.reached_run logReady network loaded site
  rw [start] at failed
  generalize Bootstrap.run logReady network loaded site = ended at reached failed
  obtain ⟨fault | settings, after⟩ := ended
  · cases failed
    exact ⟨fault, rfl, reached⟩
  · cases failed

theorem run_of_failed_start
    {error : LaunchError}
    (failed : start logReady network loaded site = (.error error, next))
    (accounts : Accounts) (serving : Serving) :
    run logReady network accounts serving loaded site = (.error error, next) := by
  rw [run, Action.bind_apply, failed]

theorem failed_start_of_other
    {settings : Settings}
    (unix : settings.socket = .unix path)
    (found : site.files.locate false path = .ok (.present place node) ∨
      (settings.socket.prepare site.files).2.locate false path = .ok (.present place node))
    (other : node ≠ .socket false)
    (logReady : Bool) (network : Network) :
    ∃ error next, start logReady network (.ok settings) site = (.error (.bootstrap error), next) ∧
      ∀ place node, site.files.lookup place = some node →
        next.files.lookup place = some node := by
  have prepared : (settings.socket.prepare site.files).2.locate false path =
      .ok (.present place node) := by
    rcases found with before | after
    · exact locate_of_extends (settings.socket.furnished_prepare site.files).extension before
    · exact after
  have reached := Bootstrap.reached_run logReady network (.ok settings) site
  obtain ⟨⟨error, refused⟩, kept⟩ := reached.stopped_by_other unix prepared other
  rw [start]
  generalize Bootstrap.run logReady network (.ok settings) site = ended at refused kept ⊢
  obtain ⟨result, next⟩ := ended
  obtain rfl : result = .error error := refused
  exact ⟨error, next, rfl, kept⟩

/--
However a daemon that has started ends, it has given up rights before, and the last thing it does is
to clean up.
-/
theorem files_run_of_start
    {settings : Settings}
    (started : start logReady network loaded site = (.ok settings, next))
    (keeps : ∀ files : FileTree, files.KeepsSockets (serving settings files).2)
    (accounts : Accounts) :
    let reached := (accounts.drop settings.user settings.group next.files.actor).2
    ∃ tree, (next.files.as reached).KeepsSockets tree ∧
      (run logReady network accounts serving loaded site).2.files =
        Listener.cleanup settings.socket tree := by
  rw [run, Action.bind_apply, started]
  dsimp only
  rw [Action.bind_apply, dropRights]
  generalize accounts.drop settings.user settings.group next.files.actor = dropped
  obtain ⟨error | ⟨⟩, reached⟩ := dropped
  · exact ⟨next.files.as reached, KeepsSockets.refl _, rfl⟩
  · dsimp only
    have kept := keeps (next.files.as reached)
    rw [serve]
    generalize serving settings (next.files.as reached) = served at kept ⊢
    obtain ⟨cause | reason, files⟩ := served
    · exact ⟨files, kept, rfl⟩
    · exact ⟨files, kept, rfl⟩

/--
The socket file of a daemon that has started is gone when it ends if those rights that the daemon
has kept allow to remove it; otherwise it stays.
-/
theorem socket_of_start
    {settings : Settings}
    (started : start logReady network loaded site = (.ok settings, next))
    (unix : settings.socket = .unix path)
    (sound : site.files.Sound)
    (keeps : ∀ files : FileTree, files.KeepsSockets (serving settings files).2)
    (accounts : Accounts) :
    let reached := (accounts.drop settings.user settings.group next.files.actor).2
    let left := next.files.as reached
    ∃ place, (∀ node, site.files.lookup place = some node → node = .socket false) ∧
      next.files.locate false path = .ok (.present place (.socket true)) ∧
      (run logReady network accounts serving loaded site).2.files.lookup place =
        (if (left.removeFile path).isOk then none else some (.socket true)) ∧
      (reached = next.files.actor ∨ reached.isSuper = true →
        (left.removeFile path).isOk = true) := by
  intro reached left
  obtain ⟨safe, place, leads, bar, before⟩ := (reached_of_start started).leads unix sound
  obtain ⟨tree, kept, cleaned⟩ := files_run_of_start started keeps accounts
  have whole : left.Sound := safe.as reached
  have stay : left.SocketsStay tree := kept whole
  have super : Credentials.superuser.isSuper = true := rfl
  have everywhere : (left.as .superuser).locate false path =
      .ok (.present place (.socket true)) := (locate_as_of_isSuper super leads :)
  refine ⟨place, before, leads, ?_, fun able => ?_⟩
  · rw [cleaned, unix, Listener.cleanup]
    rcases stay.removeFile whole everywhere with ⟨removed, gone⟩ | ⟨cause, refused, there⟩
    · rw [removed, gone]
      exact (lookup_erase tree place place).trans (if_pos rfl)
    · rw [refused, there]
      exact stay.lasts.kept place _ (locate_shows everywhere) rfl
  · have removed : left.removeFile path = .ok (left.erase place) := by
      refine removeFile_eq_ok_iff.2 ⟨place, .socket true, ?_, ?_, rfl, rfl⟩
      · rcases able with same | super
        · rw [show left = next.files from congrArg next.files.as same]
          exact leads
        · exact locate_as_of_isSuper super leads
      · rcases able with same | super
        · rw [show left = next.files from congrArg next.files.as same]
          exact bar
        · exact removalBar?_of_isSuper super place
    rw [removed]
    rfl

end Launch

end Confinement
