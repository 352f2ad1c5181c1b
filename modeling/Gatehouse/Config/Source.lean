import Gatehouse.Config.Application

/-!
Where the configuration comes from: a file named by the environment, which need not exist.
-/
namespace Gatehouse.ConfigSource

/-- What reading a file can come to. -/
inductive FileState where
  | absent
  | unreadable (reason : String)
  | contents (bytes : Bytes)

/-- Why there is no configuration. -/
inductive ConfigError where
  | workingDirectory (reason : String)
  | read (path reason : String)
  | parse (path : String) (fault : Json.Fault)

namespace ConfigError

/-- The cause alone. -/
def detail : ConfigError → String
  | workingDirectory reason | read _ reason => reason
  | parse _ fault => fault.message

/-- The whole wording. -/
def message (error : ConfigError) : String :=
  match error with
  | workingDirectory _ => "Failed to resolve working directory: " ++ error.detail
  | read path _ => "Failed to read config file " ++ path ++ ": " ++ error.detail
  | parse path _ => "Failed to parse config file " ++ path ++ ": " ++ error.detail

end ConfigError

/-- A path behind a directory. -/
def join (directory path : String) : String :=
  if directory.endsWith "/" then directory ++ path else directory ++ "/" ++ path

/-- The name of the configuration file. -/
def fileName (env : Environment) : String :=
  (env.nonEmpty? "CONFIG_PATH").getD "config.json"

/-- The path of the configuration file. A relative name needs a working directory, which may be gone
for a reason. -/
def path (env : Environment) (directory : Except String String) : Except ConfigError String :=
  let name := fileName env
  if name.startsWith "/" then .ok name
  else
    match directory with
    | .ok directory => .ok (join directory name)
    | .error reason => .error (.workingDirectory reason)

/-- The document of a file. A file that is absent gives the defaults. -/
def read (path : String) (file : FileState) : Except ConfigError AppConfig :=
  match file with
  | .absent => .ok .standard
  | .unreadable reason => .error (.read path reason)
  | .contents bytes =>
    if (Utf8.decode? bytes).isNone then
      .error (.read path "stream did not contain valid UTF-8")
    else (AppConfig.ofDocument bytes).mapError (.parse path)

/-- The configuration: the file, and what the environment overrides. -/
def load (path : String) (file : FileState) (env : Environment) : Except ConfigError AppConfig := do
  return (← read path file).override env

end Gatehouse.ConfigSource
