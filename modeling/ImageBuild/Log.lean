/-!
# Log records

What is noted on the way to an outcome: records with a level, the part of the
library that they are about, and a text.  An outcome is kept together with its
records, in the order in which they were made.
-/

namespace ImageBuild

/-- How serious a record is, from the most serious level on. -/
inductive LogLevel where
  | error
  | warn
  | info
  | debug
  | trace
deriving DecidableEq, Repr

/-- The name of a level. -/
def LogLevel.name : LogLevel → String
  | error => "ERROR"
  | warn => "WARN"
  | info => "INFO"
  | debug => "DEBUG"
  | trace => "TRACE"

/-- What a record is about. -/
inductive LogTopic where
  | schema
  | tags
  | configuration
  | repository
deriving DecidableEq, Repr

/-- The name of a topic. -/
def LogTopic.name : LogTopic → String
  | schema => "repo_config::schema"
  | tags => "repo_config::tags"
  | configuration => "repo_config::repo_config"
  | repository => "repo_config::repo_info"

/-- A record of the log. -/
structure LogRecord where
  level : LogLevel
  topic : LogTopic
  text : String
deriving DecidableEq, Repr

/-- An outcome, which may be a failure, with the records made on the way. -/
structure Logged (ε α : Type) where
  records : List LogRecord
  result : Except ε α

namespace Logged

variable {ε δ α β : Type}

/-- An outcome that nothing is noted on. -/
def ofExcept (result : Except ε α) : Logged ε α := ⟨[], result⟩

/-- Go on from a success; a failure ends it. -/
def andThen (x : Logged ε α) (f : α → Logged ε β) : Logged ε β :=
  match x.result with
  | .ok a => ⟨x.records ++ (f a).records, (f a).result⟩
  | .error e => ⟨x.records, .error e⟩

instance : Monad (Logged ε) where
  pure a := ⟨[], .ok a⟩
  bind := andThen

instance : MonadLift (Except ε) (Logged ε) := ⟨ofExcept⟩

/-- Make a record. -/
def note (level : LogLevel) (topic : LogTopic) (text : String) : Logged ε Unit :=
  ⟨[⟨level, topic, text⟩], .ok ()⟩

/-- Fail. -/
def fail (e : ε) : Logged ε α := ⟨[], .error e⟩

/-- Give a failure another form. -/
def mapError (f : ε → δ) (x : Logged ε α) : Logged δ α :=
  ⟨x.records, x.result.mapError f⟩

end Logged

end ImageBuild
