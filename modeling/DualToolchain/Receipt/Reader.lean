import DualToolchain.Receipt.Basic
import DualToolchain.Field

/-! Reading receipts from the fields of an object. -/

namespace DualToolchain

/-- The record that an object describes. Fields that a record does not have are dropped. -/
def InvocationRecord.ofJson : Json → Checked InvocationRecord
  | .obj members =>
    let v := Json.obj members
    InvocationRecord.mk
      <$> Checked.required .int "index" v
      <*> Checked.required .text "target" v
      <*> Checked.required .text "selector" v
      <*> Checked.required .text "operation" v
      <*> Checked.required .text "configuration" v
      <*> Checked.required .text "verbosity" v
      <*> Checked.required (.list .text) "command" v
      <*> Checked.optional (.orNull .int) "exit_code" none v
      <*> Checked.required .text "status" v
      <*> Checked.optional (.list .text) "reasons" [] v
      <*> Checked.optional .int "duration_ms" 0 v
      <*> Checked.optional (.orNull .text) "stdout_path_rel" none v
      <*> Checked.optional (.orNull .text) "stderr_path_rel" none v
  | _ => .wrong .notRecord

/-- The receipt that an object describes; it started `now` unless the object says when. -/
def Receipt.ofJson (now : String) (v : Json) : Checked Receipt :=
  Receipt.mk
    <$> Checked.optional .text "package_name" "toolchain_matrix" v
    <*> Checked.optional .text "runner_version" "v1" v
    <*> Checked.optional .text "schema_version" "1.0" v
    <*> Checked.required .text "profile_id" v
    <*> Checked.required (.list .text) "requested" v
    <*> Checked.required .text "program" v
    <*> Checked.required (.list .text) "selectors" v
    <*> Checked.optional (.orNull .text) "project_dir" none v
    <*> Checked.optional .bool "dry_run" false v
    <*> Checked.optional .text "status" "RUNNING" v
    <*> Checked.optional (.list .text) "reasons" [] v
    <*> Checked.optional .int "exit_code" 0 v
    <*> Checked.optional (.list InvocationRecord.ofJson) "invocations" [] v
    <*> Checked.optional .text "started_at" now v
    <*> Checked.optional (.orNull .text) "finished_at" none v

end DualToolchain
