/-!
# Errors of configurations

What may be wrong with a configuration that was read, and why there may be none to read.
-/

namespace CloudLifecycle

/-- What makes a configuration invalid. -/
inductive ConfigFault where
  | zeroTimeout
  | noAttempts
  | zeroInterval
  | noBackends
  | blankId
  | repeatedId (id : String)
  /-- A backend that plays a profile which is not among those that are known. -/
  | unknownProfile (id profile : String) (known : List String)
  /-- A default that is not the id of any backend. -/
  | unknownDefault (id : String)
  deriving DecidableEq, Repr

/-- What makes a configuration invalid, in words. -/
def ConfigFault.message : ConfigFault → String
  | zeroTimeout => "dispatch.backend_timeout_ms は 1 以上にしてください"
  | noAttempts => "convergence.max_attempts は 1 以上にしてください"
  | zeroInterval => "convergence.poll_interval_ms は 1 以上にしてください"
  | noBackends => "backends が空です"
  | blankId => "バックエンドIDが空です"
  | repeatedId id => "バックエンドID '" ++ id ++ "' が重複しています"
  | unknownProfile id profile known =>
    "バックエンド '" ++ id ++ "' のプロファイル '" ++ profile ++ "' は不明です (利用可能: " ++
      ", ".intercalate known ++ ")"
  | unknownDefault id => "default_backend '" ++ id ++ "' は backends に定義されていません"

/-- Why there is no configuration. -/
inductive ConfigError where
  /-- The file that was asked for by name is not there. -/
  | namedFileMissing (path : String)
  | notFound
  /-- The text is no configuration. -/
  | malformed
  | invalid (fault : ConfigFault)
  /-- The file holds no text. -/
  | unreadable
  deriving DecidableEq, Repr

/-- Why there is no configuration, in words. -/
def ConfigError.message : ConfigError → String
  | namedFileMissing path => "CLOUDGATE_CONFIG_PATH が存在しないファイルを指しています: " ++ path
  | notFound =>
    "設定ファイルが見つかりません。./, ./.cloudgate/, ~/.config/cloudgate/ の順に" ++
      "cloudgate.local.yaml, .cloudgate.local.yaml, cloudgate.yaml, .cloudgate.yaml を探します" ++
      "(CLOUDGATE_CONFIG_PATH で直接指定も可)"
  | malformed => "設定ファイルの解析に失敗しました: YAML の設定として読めません"
  | invalid fault => "設定が不正です: " ++ fault.message
  | unreadable => "IO エラー: UTF-8 のテキストとして読めません"

end CloudLifecycle
