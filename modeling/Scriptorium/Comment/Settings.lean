import Scriptorium.Comment.Inherited
set_option autoImplicit false

/-!
# Settings of the documentation review

The settings as a tree, and the part of it that a path of names leads to.
-/

namespace Scriptorium.Comment

/-- Which files are reviewed and what is asked of them. -/
def analysisSettings : Value :=
  .record
    [("fileExtensions", .list
       [.text ".js", .text ".jsx", .text ".ts", .text ".tsx", .text ".py", .text ".java",
        .text ".go", .text ".rb"]),
     ("ignorePatterns", .list
       [.text "**/node_modules/**", .text "**/dist/**", .text "**/build/**",
        .text "**/.next/**", .text "**/out/**", .text "**/*.d.ts", .text "**/*.min.js",
        .text "**/*.bundle.js"]),
     ("minQualityScore", .float 0.7)]

/-- What has to be documented, and how much it matters. -/
def ruleSettings : Value :=
  .record
    [("requireFunctionDocs", .bool true), ("requireParamDocs", .bool true),
     ("requireReturnDocs", .bool true), ("requireTypeInfo", .bool true),
     ("requireExamples", .bool false), ("requireDescriptions", .bool true),
     ("style", .record
       [("preferJSDoc", .bool true), ("preferTypeScript", .bool true),
        ("requireParamTypes", .bool true), ("requireReturnTypes", .bool true)]),
     ("severity", .record
       [("missingDocumentation", .text "warning"),
        ("incompleteDocumentation", .text "warning"),
        ("incorrectDocumentation", .text "error"), ("deprecatedUsage", .text "error"),
        ("todoComments", .text "info")])]

/-- What differs by language. -/
def languageSettings : Value :=
  .record
    [("javascript", .record
       [("requireTypeInfo", .bool false)]),
     ("typescript", .record
       [("requireTypeInfo", .bool true)]),
     ("python", .record
       [("requireTypeInfo", .bool false), ("docstringStyle", .text "google")])]

/-- When and how issues are announced. -/
def notificationSettings : Value :=
  .record
    [("enabled", .bool true), ("realtimeMonitoring", .bool true),
     ("desktopNotifications", .bool false), ("emailNotifications", .bool false),
     ("thresholds", .record
       [("warning", .int 5), ("error", .int 1), ("critical", .int 1)]),
     ("channels", .record
       [("inApp", .bool true), ("email", .bool false), ("slack", .bool false),
        ("webhook", .bool false)])]

/-- The services that take part. -/
def integrationSettings : Value :=
  .record
    [("versionControl", .record
       [("github", .bool false), ("gitlab", .bool false), ("bitbucket", .bool false)]),
     ("ciCd", .record
       [("githubActions", .bool false), ("gitlabCI", .bool false), ("jenkins", .bool false)]),
     ("documentation", .record
       [("readthedocs", .bool false), ("docusaurus", .bool false), ("gitbook", .bool false)])]

/-- What may be mended without asking. -/
def fixSettings : Value :=
  .record
    [("enabled", .bool false), ("safeChangesOnly", .bool true),
     ("backupBeforeFix", .bool true),
     ("fixableIssues", .list
       [.text "missing-param-tag", .text "missing-return-tag", .text "missing-description",
        .text "missing-type"])]

/-- How results are kept. -/
def cacheSettings : Value :=
  .record
    [("enabled", .bool true), ("ttl", .int 3600), ("directory", .text ".documentation-cache")]

/-- How the review is logged. -/
def logSettings : Value :=
  .record
    [("level", .text "info"), ("format", .text "text"),
     ("file", .text "documentation-issues.log"), ("maxSize", .text "10MB"),
     ("maxFiles", .int 5)]

/-- All settings (`DOCUMENTATION_CONFIG`). -/
def settings : Value :=
  .record
    [("analysis", analysisSettings),
     ("rules", ruleSettings),
     ("languages", languageSettings),
     ("notifications", notificationSettings),
     ("integrations", integrationSettings),
     ("autoFix", fixSettings),
     ("cache", cacheSettings),
     ("logging", logSettings)]

/-- What a path of names leads to in the settings; no member of nothing can be asked for. -/
def settingsAt [Halves] (path : List Value) : Outcome (Option Thing) :=
  path.foldlM (fun t name => do Thing.member t (← Loose.shown name)) (some (.data settings))

end Scriptorium.Comment
