import SqlBatch.Proofs.Session.Locks
import SqlBatch.Proofs.Session.Switching
import SqlBatch.Proofs.Url.Encoding
/- Sessions with the database that their address names. The name is taken as the address spells it,
   so that it is another one when anything in it had to be encoded.
     1. `Program.Stays.database_eq`: a program that never changes the database stays in it.
     2. `Program.Stays.request_database`: the first request on each connection selects it, and no
        other request does.
     3. `address_selects_spelling`: with an address, the database is the spelling of its name. -/
namespace SqlBatch

variable {σ μ α β : Type}

/-! Programs that stay in their database. -/

section Staying

variable {b : Backend σ} {w w' : World σ} {es : List (Event μ)} {g : Stage}

theorem World.enter_database {r : Except Failure Unit} (h : w.enter b = (r, w', es)) :
    w'.session.database = w.session.database := by
  unfold enter at h
  grind [World.put, Session.cleared]

theorem World.flush_database {o : Outcome Shaped} (h : w.flush b = (o, w', es)) :
    w'.session.database = w.session.database := by
  unfold flush at h
  grind [World.put, Session.cleared]

theorem World.settle_database {s : Sending} {r : Except Failure β} {o : Outcome (Batched β)}
    (h : w.settle b s r = (o, w', es)) : w'.session.database = w.session.database := by
  unfold settle at h
  grind [World.flush_database]

theorem World.leave_database {d failed : Bool} {epoch : UInt64}
    (h : w.leave b d epoch failed = (w', es)) : w'.session.database = w.session.database := by
  unfold leave giveUp at h
  grind [World.put, Session.cleared]

namespace Program

/-- The program never changes the database. -/
def Stays : {α : Type} → Program μ α → Prop
  | _, .done _ => True
  | _, .abort => True
  | _, .queue _ next => next.Stays
  | _, .useDatabase .. => False
  | _, .observe next => ∀ v, (next v).Stays
  | _, .mark _ next => next.Stays
  | _, .scope _ _ op next => op.Stays ∧ ∀ r, (next r).Stays

/-- At every moment the session is meant for the database that it was meant for at the start. -/
theorem Stays.database_eq {p : Program μ α} (hp : p.Stays) (h : p.Passes b w es g w') :
    w'.session.database = w.session.database := by
  induction p generalizing w es g w' with
  | done r | abort => cases h; rfl
  | queue st next ih =>
    cases h with
    | here => rfl
    | queue h => exact (ih hp h).trans rfl
  | useDatabase db next ih => exact hp.elim
  | observe next ih =>
    cases h with
    | here => rfl
    | observe h => exact ih _ (hp _) h
  | mark m next ih =>
    cases h with
    | here => rfl
    | mark h => exact ih hp h
  | scope d s op next ihop ih =>
    -- An operation that ran has left the session as it was at its end.
    have hran {w₁ w₂ : World σ} {r} {fs : List (Event μ)}
        (ho : op.run b w₁ = ⟨.finished r, w₂, fs⟩) :
        w₂.session.database = w₁.session.database := by
      have hend := op.passes_end b w₁ (r := r) (by rw [ho])
      rw [ho] at hend
      exact ihop hp.1 hend
    cases h with
    | here => rfl
    | refused he h => rw [ih _ (hp.2 _) h, World.enter_database he]
    | inside he h => rw [ihop hp.1 h, World.enter_database he]
    | settled he ho hset =>
      rw [World.settle_database hset, hran ho, World.enter_database he]
    | left he ho hset hl h =>
      rw [ih _ (hp.2 _) h, World.leave_database hl, World.settle_database hset, hran ho,
        World.enter_database he]

/-- The first request on each connection selects the database that the session began with, and no
    later one selects any. -/
theorem Stays.request_database {p : Program μ α} {config : Config} {server : σ}
    {before after : List (Event μ)} {request : Request} {done : Bool} (hp : p.Stays)
    (h : (p.run b ⟨.start config, server⟩).events = before ++ .run request done :: after) :
    request.database = if lastRequests before = [] then config.database else none := by
  obtain ⟨w, hpasses, hc, rfl⟩ := p.run_sends _ h
  have hfirst := hpasses.reached.fresh_iff hc
  have hdatabase := hp.database_eq hpasses
  simp only [Session.request, hfirst, hdatabase]
  rfl

end Program

end Staying

/-! The text of what selects a database. -/

/-- A request that selects a database begins with it. -/
theorem Request.text_of_database {r : Request} {db : String} (h : r.database = some db)
    (d : Dialect) :
    r.text d = "USE " ++ Sql.identifier db ++ ";" ++
      String.join (r.statements.map (Sql.statement d)) := by
  rw [text, all, h]
  exact String.join_cons

/-- There is nothing to quote in the spelling of a name. -/
theorem Sql.identifier_encodeName (name : String) :
    Sql.identifier (Url.encodeName name) = "`" ++ Url.encodeName name ++ "`" := by
  have hnone : '`' ∉ (Url.encodeName name).toList := by
    intro h
    exact absurd (Url.plain_encodeName name _ h).kept (by decide)
  rw [identifier, escaped_of_not_mem _ hnone]

/-- The address that spells a name other than dots can be used, and a configuration made from it has
    the spelling for its database. That is the name itself exactly if no byte of the name had to be
    encoded, and always decodes to it. A program that stays in its database selects the spelling
    with the first request on each connection, and nothing later. -/
theorem address_selects_spelling (name : String) (hempty : name ≠ "") (hdot : name ≠ ".")
    (hdots : name ≠ "..") :
    MySql.connectCheck (Url.address name) = .ok () ∧
    ∃ config, Config.ofUrl (Url.address name) = .ok config ∧
      config.url = Url.address name ∧ config.database = some (Url.encodeName name) ∧
      (config.database = some name ↔ ∀ b ∈ Text.utf8 name, Url.isUnreserved b = true) ∧
      (config.database.bind fun s => Text.ofUtf8? (Url.decode (Text.utf8 s))) = some name ∧
      ∀ {σ μ α : Type} (b : Backend σ) (server : σ) (p : Program μ α), p.Stays →
        ∀ before request done after,
          (p.run b ⟨.start config, server⟩).events = before ++ .run request done :: after →
          (lastRequests before = [] → ∃ rest,
            request.text b.dialect = "USE `" ++ Url.encodeName name ++ "`;" ++ rest) ∧
          (lastRequests before ≠ [] → request.database = none) := by
  refine ⟨MySql.connectCheck_address hdot hdots, ⟨Url.address name, some (Url.encodeName name)⟩,
    Config.ofUrl_address hempty hdot hdots, rfl, rfl, ?_, ?_, ?_⟩
  · rw [Option.some.injEq]
    exact Url.encodeName_eq_self_iff name
  · rw [Option.bind_some]
    exact Url.ofUtf8?_decode_encodeName name
  · intro σ μ α b server p hp before request done after hlog
    have hdatabase := hp.request_database hlog
    refine ⟨fun hfirst => ⟨String.join (request.statements.map (Sql.statement b.dialect)), ?_⟩,
      fun hlater => ?_⟩
    · rw [if_pos hfirst] at hdatabase
      have hopening : "USE `" = "USE " ++ "`" := rfl
      have hclosing : "`;" = "`" ++ ";" := rfl
      rw [Request.text_of_database hdatabase, Sql.identifier_encodeName, hopening, hclosing]
      simp only [String.append_assoc]
    · rwa [if_neg hlater] at hdatabase

/-- Rows are read from a server that answers nothing, in a session of the configuration. -/
def readingWith (config : Config) : Ran Script Unit Unit :=
  (reading (.done (.ok ()))).run (Script.backend .generic) ⟨.start config, ⟨[], [], []⟩⟩

theorem events_readingWith (url db : String) :
    (readingWith ⟨url, some db⟩).events =
      [.connect url true, .opened 0, .queued (.select { table := keyTable }) (some db)] ++
        .run ⟨some db, [.select { table := keyTable }]⟩ true :: [.destroy, .closed false] := by
  simp only [readingWith, reading, Program.run]
  rfl

/-- A name in which nothing is encoded is the one that is selected. -/
theorem address_selects_spelling_plain :
    Config.ofUrl "mysql://host/shop_1" = .ok ⟨"mysql://host/shop_1", some "shop_1"⟩ ∧
    ∃ rest, (Request.mk (some "shop_1") [.select { table := keyTable }]).text .generic =
      "USE `shop_1`;" ++ rest := by
  have hstays : (reading (.done (.ok ()))).Stays := ⟨trivial, fun _ => trivial⟩
  obtain ⟨-, ⟨url, database⟩, hconfig, rfl, rfl, -, -, hruns⟩ :=
    address_selects_spelling "shop_1" (by decide) (by decide) (by decide)
  exact ⟨hconfig, (hruns _ _ _ hstays _ _ _ _ (events_readingWith _ _)).1 rfl⟩

/-- A blank stays encoded, and another database is selected than the address names. -/
theorem blank_selected_encoded :
    Url.address "a b" = "mysql://host/a%20b" ∧
    Config.ofUrl (Url.address "a b") = .ok ⟨"mysql://host/a%20b", some "a%20b"⟩ ∧
    (¬ ∃ config, Config.ofUrl (Url.address "a b") = .ok config ∧ config.database = some "a b") ∧
    (requests (readingWith ⟨"mysql://host/a%20b", some "a%20b"⟩).events).map
      (·.text .generic) = ["USE `a%20b`;SELECT * FROM `keys`;"] := by
  have hconfig : Config.ofUrl (Url.address "a b") = .ok ⟨"mysql://host/a%20b", some "a%20b"⟩ :=
    Config.ofUrl_address (by decide) (by decide) (by decide)
  refine ⟨rfl, hconfig, ?_, ?_⟩
  · rintro ⟨config, hc, hname⟩
    rw [hconfig] at hc
    cases hc
    exact absurd hname (by decide)
  · rw [events_readingWith]
    decide

end SqlBatch
