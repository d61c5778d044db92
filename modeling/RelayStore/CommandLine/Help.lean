import RelayStore.Settings

/-! The pages of help. -/
namespace RelayStore.CommandLine

def programName : String := "pensieve-store"

/-- What a page is about. -/
inductive Topic where
  | program
  | serve
  | importFiles
  | query
  | count
  | refreshHot
  | help
  deriving DecidableEq, Repr

namespace Topic

/-- The commands in the order of the list of them. -/
def commands : List (String × Topic) := [("serve", serve), ("import", importFiles),
  ("query", query), ("count", count), ("refresh-hot", refreshHot), ("help", help)]

def ofName? (name : String) : Option Topic := (commands.find? fun c => c.1 = name).map (·.2)

def summary : Topic → String
  | program => "Batched ClickHouse storage and filter routing for a Nostr relay"
  | serve => "Run the ingest worker, hot-posts scheduler, and HTTP endpoints"
  | importFiles => "Import events from JSONL files"
  | query => "Print events matching a NIP-01 filter as JSON lines"
  | count => "Count events matching a NIP-01 filter"
  | refreshHot => "Rebuild the hot-posts ranking once"
  | help => "Print this message or the help of the given subcommand(s)"

/-- What stands behind the name of the program. -/
def form : Topic → String
  | program => "[OPTIONS] <COMMAND>"
  | serve => "serve"
  | importFiles => "import [OPTIONS] <INPUT>"
  | query => "query <FILTER>"
  | count => "count <FILTER>"
  | refreshHot => "refresh-hot"
  | help => "help [COMMAND]..."

/-- Forms and their meanings. -/
abbrev Entries := List (String × String)

def arguments : Topic → Entries
  | importFiles => [("<INPUT>", "Input file or directory")]
  | query | count => [("<FILTER>", "Filter JSON")]
  | help => [("[COMMAND]...", "Print help for the subcommand(s)")]
  | _ => []

/-- The path in the environment is shown beside its option. -/
def options (env : Environment) : Topic → Entries
  | program => [
    ("    --dotenv <DOTENV>", "Path to .env file (optional) [env: DOTENV_PATH=" ++
      (env.text? "DOTENV_PATH").getD "" ++ "] [default: .env]"),
    ("-h, --help", "Print help"),
    ("-V, --version", "Print version")]
  | importFiles => [
    ("    --skip-validation", "Skip id/signature verification"),
    ("    --stop-on-error", "Abort on the first invalid event instead of skipping it"),
    ("    --limit <LIMIT>", "Limit number of files to process"),
    ("-h, --help", "Print help")]
  | help => []
  | _ => [("-h, --help", "Print help")]

/-- Two columns under a title; nothing where there are no entries. -/
def columns (title : String) (entries : Entries) : List String :=
  let width := (entries.map fun e => e.1.length).foldl max 0
  let rows := entries.map fun (form, meaning) =>
    "  " ++ String.ofList (form.toList.rightpad width ' ') ++ "  " ++ meaning
  if rows = [] then [] else "" :: (title ++ ":") :: rows

def subcommands : Topic → Entries
  | program => commands.map fun (name, c) => (name, c.summary)
  | _ => []

def page (env : Environment) (t : Topic) : List String :=
  [t.summary, "", "Usage: " ++ programName ++ " " ++ t.form] ++ columns "Commands" t.subcommands ++
    columns "Arguments" t.arguments ++ columns "Options" (t.options env)

end Topic
end RelayStore.CommandLine
