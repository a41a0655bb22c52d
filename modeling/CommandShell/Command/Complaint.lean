import CommandShell.Files.Path

/-! What the built-in commands object to. -/

namespace CommandShell

inductive Complaint
  | usage (form : String)
  | notEnoughArguments (form : String)
  | unknownOperation (name : String) (available : List String)
  | unknownSubcommand (name : String) (available : List String)
  | operationMissing (available : List String)
  | variableNotFound (name : String)
  | aliasOperationMissing
  | aliasNameMissing
  | aliasNotFound (name : String)
  | keyNotFound (key : String)
  | environmentNameMissing
  | environmentNotFound (name : String)
  | environmentNameIllegal
  | commandNotFound (name : String)
  | notDirectory (path : Path)
  | listingFailed (cause : String)
  | pathExists (path : Path)
  | filePathMissing
  | fileNotCreated (cause : String)
  | fileNotFound (path : Path)
  | fileNotRead (cause : String)
  | fileNotWritten (cause : String)
  | openTargetMissing
  | openDirectory (path : Path)
  | noOpener (opener : String)
  | notOpened (target : String)
  | scriptNotFound (path : Path)
  | scriptNotRead (cause : String)
  | calculation (cause : String)
  | chatNotConfigured (path : Path)
  | chatFailed (baseUrl model : String) (timeout : Nat) (cause : String)
  deriving DecidableEq, Repr

namespace Complaint

def list (words : List String) : String :=
  String.intercalate ", " words

def message : Complaint → String
  | usage form => "Usage: " ++ form
  | notEnoughArguments form => "Not enough arguments. Usage: " ++ form
  | unknownOperation name available =>
      "Unknown operation: " ++ name ++ "\nAvailable operations: " ++ list available
  | unknownSubcommand name available =>
      "Unknown subcommand: " ++ name ++ "\nAvailable subcommands: " ++ list available
  | operationMissing available =>
      "Operation must be specified. Available operations: " ++ list available
  | variableNotFound name => "Variable not found: " ++ name
  | aliasOperationMissing =>
      "Operation or alias must be specified. Use 'alias list' to view all aliases."
  | aliasNameMissing => "Alias name must be specified for removal"
  | aliasNotFound name => "Alias not found: " ++ name
  | keyNotFound key => "Key not found in cache: " ++ key
  | environmentNameMissing => "Specify the variable name. Usage: env get <name>"
  | environmentNotFound name => "Environment variable not found: " ++ name
  | environmentNameIllegal => "illegal environment variable name"
  | commandNotFound name => "Unknown command: " ++ name
  | notDirectory path => "Not a directory: " ++ path.text
  | listingFailed cause => "Error listing directory: " ++ cause
  | pathExists path => "Path already exists: " ++ path.text
  | filePathMissing => "File path is required"
  | fileNotCreated cause => "Failed to create file: " ++ cause
  | fileNotFound path => "File not found: " ++ path.text
  | fileNotRead cause => "Error reading file: " ++ cause
  | fileNotWritten cause => "Error writing to file: " ++ cause
  | openTargetMissing =>
      "Please specify the file path or application name. "
        ++ "Usage: open <file_path_or_app_name> [args...]"
  | openDirectory path => "The specified path is a directory, not a file: " ++ path.text
  | noOpener opener =>
      "Failed to open the file. There may be no suitable application or the system function is "
        ++ "not supported. (No opener available (" ++ opener ++ "))"
  | notOpened target =>
      "Failed to open file or run application '" ++ target
        ++ "'. File not found or application not available in PATH."
  | scriptNotFound path => "Script file not found: " ++ path.text
  | scriptNotRead cause => "Error reading script file: " ++ cause
  | calculation cause => "Error calculating: " ++ cause
  | chatNotConfigured path => "ask is not configured: Chat config not found: " ++ path.text
  | chatFailed baseUrl model timeout cause =>
      s!"ask failed (base_url={baseUrl}, model={model}, timeout_ms={timeout}) :: " ++ cause

end Complaint

end CommandShell
