import Galley.Client
import Galley.Proofs.Api.ReadBack

/-!
# Sessions among other clients

A session of the client is put before a world. In the world here (`sharedWorld`) there is one
server, which other clients visit too: before each request of the session is served, any number of
visits can come first. Files are read from one place, and what is written is lost.

A session gives a result (`Gives`) exactly if each of its steps does, and a request for a template
gives what the client makes of the server's response.

Main results:

* `gives_bind` — a session that goes on with a result gives what its parts give one after another.
* `gives_askTemplate` — what a request for a template gives, and what it leaves behind.
-/

namespace Galley.Client

-- ---------------------------------------------------------------------------
-- Carrying out dialogues
-- ---------------------------------------------------------------------------

/-- A dialogue that goes on with a result is carried out up to the result first. -/
theorem Dialogue.run_bind {m : Type → Type} [Monad m] [LawfulMonad m] {α β : Type} (w : World m)
    (d : Dialogue α) (f : α → Dialogue β) : run w (d >>= f) = run w d >>= fun x => run w (f x) := by
  show run w (d.bind f) = _
  induction d with
  | done result => rw [bind, run, pure_bind]
  | send request next ih => simp only [bind, run, bind_assoc, ih]
  | load path next ih => simp only [bind, run, bind_assoc, ih]
  | save path bytes next ih => simp only [bind, run, bind_assoc, ih]

section

variable {σ α β : Type}

/-- A session gives a result in a world, and leaves the world in some state. -/
def Gives (w : Dialogue.World (StateM σ)) (x : Session α) (s : σ) (y : α) (s' : σ) : Prop :=
  (Dialogue.run w x.run).run s = (.ok y, s')

variable {w : Dialogue.World (StateM σ)} {s s'' : σ}

/-- A session that does nothing gives its value and leaves everything. -/
theorem gives_pure {x y : α} : Gives w (pure x) s y s'' ↔ x = y ∧ s = s'' := by
  show ((.ok x, s) : Except Complaint α × σ) = (.ok y, s'') ↔ _
  rw [Prod.mk.injEq, Except.ok.injEq]

/-- A session that complains gives nothing. -/
theorem not_gives_throw {complaint : Complaint} {y : α} :
    ¬Gives w (throw complaint : Session α) s y s'' :=
  (nomatch ·)

theorem gives_ofExcept {x : Except Complaint α} {y : α} :
    Gives w (Session.ofExcept x) s y s'' ↔ x = .ok y ∧ s = s'' := by
  cases x with
  | error complaint => exact ⟨fun h => absurd h not_gives_throw, fun h => (nomatch h.1)⟩
  | ok x =>
    rw [Session.ofExcept, gives_pure, Except.ok.injEq]

/-- A step of a session gives what its dialogue comes to. -/
theorem gives_step {d : Dialogue α} {y : α} :
    Gives w (Session.step d) s y s'' ↔ (Dialogue.run w d).run s = (y, s'') := by
  show (Dialogue.run w (d >>= fun y => pure (Except.ok y))).run s = (.ok y, s'') ↔ _
  rw [Dialogue.run_bind, StateT.run_bind]
  show ((.ok ((Dialogue.run w d).run s).1, ((Dialogue.run w d).run s).2) :
    Except Complaint α × σ) = (.ok y, s'') ↔ _
  rw [Prod.mk.injEq, Except.ok.injEq, Prod.ext_iff]

/-- **A session that goes on with a result** gives what its parts give one after another. -/
theorem gives_bind {x : Session α} {f : α → Session β} {y : β} :
    Gives w (x >>= f) s y s'' ↔ ∃ v s', Gives w x s v s' ∧ Gives w (f v) s' y s'' := by
  have hRun : (Dialogue.run w (x >>= f).run).run s =
      (match (Dialogue.run w x.run).run s with
        | (.ok v, s') => (Dialogue.run w (f v).run).run s'
        | (.error e, s') => (.error e, s')) := by
    rw [ExceptT.run_bind, Dialogue.run_bind, StateT.run_bind]
    show StateT.run (Dialogue.run w _) ((Dialogue.run w x.run).run s).2 = _
    rcases (Dialogue.run w x.run).run s with ⟨e | v, s'⟩ <;> rfl
  rw [Gives, hRun]
  constructor
  · intro h
    split at h
    · next v s' hFirst => exact ⟨v, s', hFirst, h⟩
    · cases h
  · rintro ⟨v, s', hFirst, hSecond⟩
    rw [hFirst]
    exact hSecond

end

-- ---------------------------------------------------------------------------
-- The shared world
-- ---------------------------------------------------------------------------

/-- A turn of a client: the visits of others that come first, and what its request meets then. -/
structure Turn where
  others : List Visit
  env : Surroundings

/-- A world with a server that others visit too, with a turn for each request to come, and with
files that are only read. A request for which there is no turn is not answered. -/
def sharedWorld (server : Server) (files : String → Except String String) :
    Dialogue.World (StateM (Backend × List Turn)) where
  send request := fun s =>
    match s with
    | (b, []) => (.error ["error sending request"], (b, []))
    | (b, turn :: turns) =>
      let reply := (server.serve turn.env request).run (server.visitAll b turn.others)
      (.ok reply.1, (reply.2, turns))
  load path := fun s => (files path, s)
  save _ _ := fun s => (.ok (), s)

/-- A template is taken from a successful response only. -/
theorem isSuccess_of_answered {response : Response} {t : Template}
    (h : answered response = .ok t) : response.isSuccess = true := by
  obtain ⟨data, hData, -⟩ := map_eq_ok.mp h
  obtain ⟨r, hChecked, -⟩ := bind_eq_ok.mp hData
  rw [checked] at hChecked
  split at hChecked
  · assumption
  · cases hChecked

/-- The content that a session takes from a file, if it is given one and can read it. -/
def contentOf (files : String → Except String String) (path : Option String) : Option Content :=
  path.bind fun path => (files path).toOption.bind fun text => (Content.parse text).toOption

section

variable {server : Server} {files : String → Except String String} {s s' : Backend × List Turn}

/-- A request goes out in its turn, behind the visits of others. -/
theorem run_send {base : String} {c : Call} {response : Response} :
    (Dialogue.run (sharedWorld server files) (c.send base)).run s = (.ok response, s') ↔
      ∃ b turn turns address, s = (b, turn :: turns) ∧
        Address.destination (base ++ c.path) = .ok address ∧
        ((server.serve turn.env (c.toRequest address)).run (server.visitAll b turn.others)).1 =
          response ∧
        s' = (server.visit (server.visitAll b turn.others) ⟨turn.env, c.toRequest address⟩,
          turns) := by
  obtain ⟨b, turns⟩ := s
  rw [Call.send]
  cases Address.destination (base ++ c.path) with
  | error fault => exact ⟨(nomatch ·), fun ⟨_, _, _, _, _, h, _⟩ => nomatch h⟩
  | ok address =>
    cases turns with
    | nil => exact ⟨(nomatch ·), fun ⟨_, _, _, _, h, _⟩ => nomatch h⟩
    | cons turn turns =>
      constructor
      · intro h
        cases h
        exact ⟨b, turn, turns, address, rfl, rfl, rfl, rfl⟩
      · rintro ⟨_, _, _, _, hState, hSame, rfl, rfl⟩
        cases hState
        cases hSame
        rfl

/-- **A request for a template** goes out in its turn, and gives what the client makes of the
response. -/
theorem gives_askTemplate {base : String} {c : Call} {t : Template} :
    Gives (sharedWorld server files) (askTemplate base c) s t s' ↔
      ∃ b turn turns address, s = (b, turn :: turns) ∧
        Address.destination (base ++ c.path) = .ok address ∧
        answered ((server.serve turn.env (c.toRequest address)).run
          (server.visitAll b turn.others)).1 = .ok t ∧
        s' = (server.visit (server.visitAll b turn.others) ⟨turn.env, c.toRequest address⟩,
          turns) := by
  rw [askTemplate, Call.ask]
  simp only [gives_bind, gives_step, gives_pure]
  constructor
  · rintro ⟨data, _, ⟨reply, s₁, hSend, hReply⟩, rfl, rfl⟩
    cases reply with
    | error causes => exact absurd hReply not_gives_throw
    | ok response =>
      obtain ⟨hData, rfl⟩ := gives_ofExcept.mp hReply
      obtain ⟨b, turn, turns, address, hState, hAddress, rfl, hAfter⟩ := run_send.mp hSend
      exact ⟨b, turn, turns, address, hState, hAddress, map_eq_ok.mpr ⟨data, hData, rfl⟩, hAfter⟩
  · rintro ⟨b, turn, turns, address, hState, hAddress, hAnswered, hAfter⟩
    obtain ⟨data, hData, rfl⟩ := map_eq_ok.mp hAnswered
    exact ⟨data, s', ⟨_, s', run_send.mpr ⟨b, turn, turns, address, hState, hAddress, rfl, hAfter⟩,
      gives_ofExcept.mpr ⟨hData, rfl⟩⟩, rfl, rfl⟩

/-- A file is read without asking the server. -/
theorem gives_load {path text : String} :
    Gives (sharedWorld server files) (Session.load path) s text s' ↔
      files path = .ok text ∧ s = s' := by
  have hLoad : (Dialogue.run (sharedWorld server files) (.load path .done)).run s =
      (files path, s) := rfl
  rw [Session.load]
  simp only [gives_bind, gives_step, hLoad]
  constructor
  · rintro ⟨found, s₁, hFound, hNext⟩
    cases found with
    | error reason => exact absurd hNext not_gives_throw
    | ok text' =>
      obtain ⟨rfl, rfl⟩ := gives_pure.mp hNext
      rw [Prod.mk.injEq] at hFound
      exact hFound
  · rintro ⟨hFile, rfl⟩
    exact ⟨.ok text, s, by rw [hFile], gives_pure.mpr ⟨rfl, rfl⟩⟩

/-- Content from a file is taken as it is read, and there is a default only if no file is given. -/
theorem gives_contentFrom {path : Option String} {default content : Content} :
    Gives (sharedWorld server files) (contentFrom path default) s content s' ↔
      (contentOf files path).isSome = path.isSome ∧
        (contentOf files path).getD default = content ∧ s = s' := by
  cases path with
  | none =>
    rw [contentFrom, gives_pure]
    exact ⟨fun h => ⟨rfl, h⟩, fun h => h.2⟩
  | some path =>
    rw [contentFrom, readContent]
    simp only [gives_bind, gives_load]
    constructor
    · rintro ⟨text, _, ⟨hFile, rfl⟩, hNext⟩
      have hSame : contentOf files (some path) = (Content.parse text).toOption := by
        rw [contentOf, Option.bind_some, hFile]
        rfl
      rw [hSame]
      cases hParse : Content.parse text with
      | error fault =>
        rw [hParse] at hNext
        exact absurd hNext not_gives_throw
      | ok content' =>
        rw [hParse] at hNext
        exact ⟨rfl, gives_pure.mp hNext⟩
    · rintro ⟨hSome, hContent, rfl⟩
      obtain ⟨content', hRead⟩ := Option.isSome_iff_exists.mp hSome
      obtain ⟨text, hFile, hParse⟩ : ∃ text, (files path).toOption = some text ∧
          (Content.parse text).toOption = some content' := Option.bind_eq_some_iff.mp hRead
      rw [hRead] at hContent
      refine ⟨text, s, ⟨toOption_eq_some.mp hFile, rfl⟩, ?_⟩
      rw [toOption_eq_some.mp hParse]
      exact gives_pure.mpr ⟨hContent, rfl⟩

end

end Galley.Client
