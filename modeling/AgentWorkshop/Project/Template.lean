import AgentWorkshop.Files.Path
import AgentWorkshop.Files.Tree

/-!
# Templates

A new project starts as a copy of a template. There is one so far, the agent
for a conversation with a language model; `Template.bundle` holds its files as
they stand below `Template.root`.
-/

namespace AgentWorkshop

/-- The templates to choose from. -/
inductive Template where
  | llmChat
  deriving DecidableEq, Repr

namespace Template

/-- All templates. -/
def all : List Template := [llmChat]

/-- The name of a template as the user sees it. -/
def label : Template → Text
  | llmChat => text "LLM Chat"

/-- The directory of a template below the root of templates. -/
def directory : Template → Text
  | llmChat => text "agent"

/-- The template of a name. -/
def ofLabel? (t : Text) : Option Template :=
  all.find? fun template => template.label = t

/-! ## The bundled files -/

/-- Where the bundled templates are installed. -/
def root : Path :=
  .ofText (text "/usr/share/agent-workshop/templates")

/-- The contents of a file of these lines. -/
def ofLines (lines : List String) : Bytes :=
  lines.flatMap fun line => (text line ++ text "\n").flatMap Utf8.encodePoint

/-- What the project is and how to talk to the agent. -/
def readme : Bytes :=
  ofLines [
    "# UOMI agent",
    "",
    "Build and talk to your agent:",
    "",
    "    npm run start",
    "",
    "`wasp-chat` writes the conversation to `host/src/input.txt`, runs",
    "`bin/build_and_run_host.sh` and prints the response found in",
    "`host/src/output.txt`.",
    "",
    "Commands inside the chat: `/clear`, `/history`, `/exit`.",
    "",
    "The build script expects the UOMI host crate in `./host`. Without it the",
    "script stops with an error before building anything."]

/-- The manifest, with a placeholder for the name. -/
def manifest : Bytes :=
  ofLines [
    "[package]",
    "name = \"agent-template\"",
    "version = \"0.1.0\"",
    "edition = \"2021\"",
    "",
    "[lib]",
    "crate-type = [\"cdylib\"]",
    "",
    "[dependencies]",
    "serde = \x7b version = \"1.0\", features = [\"derive\"] \x7d",
    "serde_json = \"1.0\"",
    "",
    "[profile.release]",
    "opt-level = \"s\"",
    "lto = true"]

/-- The agent. -/
def library : Bytes :=
  ofLines [
    "use serde::\x7bDeserialize, Serialize\x7d;",
    "",
    "extern \"C\" \x7b",
    "    fn get_input_data(ptr: i32, len: i32);",
    "    fn set_output(ptr: i32, len: i32);",
    "    fn call_ai(model: i32, ptr: i32, len: i32, output_ptr: i32, output_len: i32);",
    "\x7d",
    "",
    "const MAX_INPUT_SIZE: usize = 1024 * 1024;",
    "",
    "#[derive(Serialize, Deserialize, Debug)]",
    "struct Message \x7b",
    "    role: String,",
    "    content: String,",
    "\x7d",
    "",
    "fn extract_wasm_data(data: Vec<u8>) -> Vec<u8> \x7b",
    "    let data_len = u32::from_le_bytes(data[..4].try_into().unwrap()) as usize;",
    "    data[4..data_len + 4].to_vec()",
    "\x7d",
    "",
    "fn read_input() -> Vec<u8> \x7b",
    "    let mut input = vec![0u8; MAX_INPUT_SIZE + 4];",
    "    unsafe \x7b",
    "        get_input_data(input.as_mut_ptr() as i32, input.len() as i32);",
    "    \x7d",
    "    extract_wasm_data(input)",
    "\x7d",
    "",
    "fn call_ai_service(model: i32, content: Vec<u8>) -> Vec<u8> \x7b",
    "    let mut response = vec![0u8; MAX_INPUT_SIZE + 4];",
    "    unsafe \x7b",
    "        call_ai(",
    "            model,",
    "            content.as_ptr() as i32,",
    "            content.len() as i32,",
    "            response.as_mut_ptr() as i32,",
    "            response.len() as i32,",
    "        );",
    "    \x7d",
    "    extract_wasm_data(response)",
    "\x7d",
    "",
    "#[no_mangle]",
    "pub extern \"C\" fn run() \x7b",
    "    let input = read_input();",
    "    let mut messages: Vec<Message> = serde_json::from_slice(&input).unwrap();",
    "    messages.insert(0, Message \x7b",
    "        role: \"system\".to_string(),",
    "        content: \"Your name is UOMI Agent\".to_string(),",
    "    \x7d);",
    "",
    "    let request = format!(\"\x7b\x7b\\\"messages\\\": \x7b\x7d\x7d\x7d\", serde_json::to_string(&messages).unwrap());",
    "    let response = call_ai_service(1, request.into_bytes());",
    "    unsafe \x7b",
    "        set_output(response.as_ptr() as i32, response.len() as i32);",
    "    \x7d",
    "\x7d"]

/-- The script that builds the agent and runs it in its host. -/
def buildScript : Bytes :=
  ofLines [
    "#!/bin/sh",
    "# Builds the agent to WASM and runs it through the local host.",
    "# The host reads host/src/input.txt and writes host/src/output.txt.",
    "set -e",
    "",
    "if [ ! -f host/Cargo.toml ]; then",
    "    echo \"error: no host found at ./host (expected host/Cargo.toml).\" >&2",
    "    echo \"Add the UOMI host crate to ./host before running the agent.\" >&2",
    "    exit 1",
    "fi",
    "",
    "cd agent-template",
    "cargo build --target wasm32-unknown-unknown --release",
    "cp target/wasm32-unknown-unknown/release/*.wasm ../host/src/agent_template.wasm",
    "cd ../host",
    "cargo run"]

/-- The files that version control passes over, without the leading dot of its name. -/
def gitignore : Bytes :=
  ofLines [
    "node_modules/",
    "target/",
    "host/src/input.txt",
    "host/src/output.txt",
    "*.wasm"]

/-- The description of the package that starts a conversation. -/
def package : Bytes :=
  ofLines [
    "\x7b",
    "  \"name\": \"uomi-agent\",",
    "  \"version\": \"0.1.0\",",
    "  \"private\": true,",
    "  \"scripts\": \x7b",
    "    \"start\": \"wasp-chat\"",
    "  \x7d",
    "\x7d"]

/-- The files of the bundled templates, below their root. -/
def bundle : List (Address × Bytes) :=
  [([text "agent", text "README.md"],
      readme),
    ([text "agent", text "agent-template", text "Cargo.toml"],
      manifest),
    ([text "agent", text "agent-template", text "src", text "lib.rs"],
      library),
    ([text "agent", text "bin", text "build_and_run_host.sh"],
      buildScript),
    ([text "agent", text "gitignore"],
      gitignore),
    ([text "agent", text "package.json"],
      package)]

/-- The files with the bundled templates among them. -/
def install (t : FileTree) : FileTree :=
  bundle.foldl (fun t (address, contents) => t.place (root.parts ++ address) (.file contents)) t

end Template

end AgentWorkshop
