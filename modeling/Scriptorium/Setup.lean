import Scriptorium.Text.Blank
set_option autoImplicit false

/-!
# Setting up a workplace

The setup writes a file of settings, installs what is needed, brings the database up to date,
runs the tests and starts the server.  It stops at the first step that fails.

A step is a function on a `Desk`, which holds what has been printed, which commands have been
run and the file of settings; what the commands do is given by the `Surroundings`.
-/

/-! ## Commands of the shell

What became of a command: its exit status and what it wrote.  A negative status is the number
of the signal that ended the command.
-/

namespace Scriptorium.Setup

/-- What became of a command. -/
structure Result where
  status : Int := 0
  output : String := ""
  errors : String := ""
  deriving Repr, Inhabited

/-- The signals that have a name. -/
def signals : List (Nat × String) :=
  [(1, "SIGHUP"), (2, "SIGINT"), (3, "SIGQUIT"), (4, "SIGILL"), (5, "SIGTRAP"),
   (6, "SIGABRT"), (7, "SIGBUS"), (8, "SIGFPE"), (9, "SIGKILL"), (10, "SIGUSR1"),
   (11, "SIGSEGV"), (12, "SIGUSR2"), (13, "SIGPIPE"), (14, "SIGALRM"), (15, "SIGTERM"),
   (16, "SIGSTKFLT"), (17, "SIGCHLD"), (18, "SIGCONT"), (19, "SIGSTOP"), (20, "SIGTSTP"),
   (21, "SIGTTIN"), (22, "SIGTTOU"), (23, "SIGURG"), (24, "SIGXCPU"), (25, "SIGXFSZ"),
   (26, "SIGVTALRM"), (27, "SIGPROF"), (28, "SIGWINCH"), (29, "SIGIO"), (30, "SIGPWR"),
   (31, "SIGSYS"), (34, "SIGRTMIN"), (64, "SIGRTMAX")]

/-- How a failed command is reported. -/
def failureText (command : String) (status : Int) : String :=
  if 0 ≤ status then s!"Command '{command}' returned non-zero exit status {status}."
  else
    let number := status.natAbs
    match signals.lookup number with
    | some name => s!"Command '{command}' died with <Signals.{name}: {number}>."
    | none => s!"Command '{command}' died with unknown signal {number}."

end Scriptorium.Setup

/-! ## Steps -/

namespace Scriptorium

/-- What a setup has done so far. -/
structure Desk where
  printed : String := ""
  /-- The commands that were run, with the directory that was asked for. -/
  ran : List (String × Option String) := []
  settings : Option String := none
  deriving Repr, Inhabited

/-- A desk on which a file of settings may lie, as it is read. -/
def Desk.with? (file : Option String) : Desk := { settings := file.map Text.withLineFeeds }

namespace Setup

/-- What a setup meets. -/
structure Surroundings where
  results : List (String × Result) := []
  /-- Whether the file of settings can be written. -/
  writable : Bool := true

/-- Prints a line. -/
def say (line : String) (desk : Desk) : Desk :=
  { desk with printed := desk.printed ++ line ++ "\n" }

/-- The width of a heading. -/
def width : Nat := 50

/-- A text in the middle of a line; of an odd number of blanks the last one is behind it. -/
def centered (text : String) : String :=
  let blanks := width - text.length
  String.ofList (List.replicate (blanks / 2) ' ') ++ text ++
    String.ofList (List.replicate (blanks - blanks / 2) ' ')

/-- The rule above and below a heading. -/
def rule : String := String.ofList (List.replicate width '=')

/-- Prints a heading (`print_header`). -/
def heading (text : String) (desk : Desk) : Desk :=
  desk |> say ("\n" ++ rule) |> say (centered (" " ++ text)) |> say rule

/-- Prints a text unless there is none. -/
def sayAny (text : String) (desk : Desk) : Desk := if text.isEmpty then desk else say text desk

/-- Runs a command and prints what it wrote (`run_command`); tells whether it succeeded. -/
def command (around : Surroundings) (line : String) (directory : Option String) (desk : Desk) :
    Bool × Desk :=
  let result := (around.results.lookup line).getD {}
  let desk := say s!"\n$ {line}" desk
  let desk := { desk with ran := desk.ran ++ [(line, directory)] }
  if result.status = 0 then (true, sayAny result.output desk)
  else (false, desk |> say ("Error: " ++ failureText line result.status) |> sayAny result.errors)

/-- The settings that are written. -/
def settingsText : String :=
  "# Application\nSECRET_KEY=your-secret-key-here\nDATABASE_URL=sqlite:///./inkwell.db\n\n" ++
  "# Security\nACCESS_TOKEN_EXPIRE_MINUTES=1440  # 24 hours\nALGORITHM=HS256\n\n" ++
  "# OpenAI\nOPENAI_API_KEY=your-openai-api-key-here\n\n" ++
  "# CORS (comma-separated list of origins)\n" ++
  "BACKEND_CORS_ORIGINS=[\"http://localhost:3000\",\"http://localhost:8000\"]\n"

/-- Writes the file of settings unless there is one (`create_env_file`); tells whether there is one
then. -/
def writeSettings (around : Surroundings) (desk : Desk) : Bool × Desk :=
  if desk.settings.isSome then
    (true, say "\n.env file already exists. Skipping creation." desk)
  else
    let desk := say "\nCreating .env file..." desk
    if around.writable then
      (true, say "Created .env file. Please update it with your configuration."
        { desk with settings := some settingsText })
    else
      (false,
        say "Error creating .env file: [Errno 2] No such file or directory: '.env'" desk)

/-- Installs what is needed (`install_dependencies`). -/
def install (around : Surroundings) (desk : Desk) : Bool × Desk :=
  command around "pip install -r requirements.txt" none (heading "Installing Dependencies" desk)

/-- Brings the database up to date (`run_migrations`). -/
def migrate (around : Surroundings) (desk : Desk) : Bool × Desk :=
  command around "alembic upgrade head" none (heading "Running Database Migrations" desk)

/-- Runs the tests (`run_tests`). -/
def test (around : Surroundings) (desk : Desk) : Bool × Desk :=
  command around "pytest -v" none (heading "Running Tests" desk)

/-- Starts the server (`start_development_server`). -/
def serve (desk : Desk) : Desk :=
  let desk := desk
    |> heading "Starting Development Server"
    |> say "\nStarting Uvicorn server..."
    |> say "The API will be available at http://localhost:8000"
    |> say "API documentation will be available at http://localhost:8000/docs\n"
  { desk with ran := desk.ran ++ [("uvicorn app.main:app --reload", none)] }

/-- The steps before the server is started, each with what is printed if it fails. -/
def steps : List ((Surroundings → Desk → Bool × Desk) × String) :=
  [(writeSettings, "\nFailed to create .env file. Please create it manually."),
   (install, "\nFailed to install dependencies. Please check the error messages above."),
   (migrate, "\nFailed to run migrations. Please check the error messages above."),
   (test, "\nSome tests failed. Please check the test output above.")]

/-- Takes steps until one fails; tells whether all succeeded. -/
def take (around : Surroundings) :
    List ((Surroundings → Desk → Bool × Desk) × String) → Desk → Bool × Desk
  | [], desk => (true, desk)
  | (step, complaint) :: rest, desk =>
    let (done, desk) := step around desk
    if done then take around rest desk else (false, say complaint desk)

/-- The whole setup, with its exit status (`main`). -/
def run (around : Surroundings) (desk : Desk) : Nat × Desk :=
  let (done, desk) := take around steps (heading "InkWell AI Backend Setup" desk)
  if done then (0, serve desk) else (1, desk)

end Setup

end Scriptorium
