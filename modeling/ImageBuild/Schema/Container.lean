/-!
# The schema of container files

The schema that container files are checked against, as the lines of its text.
-/

namespace ImageBuild.Schema

/-- The lines of the schema of container files. -/
def containerLines : List String := [
  "\x7b",
  "  \"$schema\": \"http://json-schema.org/draft-04/schema#\",",
  "  \"title\": \"container.yaml configuration\",",
  "  \"type\": [\"object\", \"null\"],",
  "  \"properties\": \x7b",
  "    \"platforms\": \x7b",
  "      \"type\": [\"object\", \"null\"],",
  "      \"properties\": \x7b",
  "        \"only\": \x7b\"$ref\": \"#/definitions/platform_list\"\x7d,",
  "        \"not\": \x7b\"$ref\": \"#/definitions/platform_list\"\x7d",
  "      \x7d,",
  "      \"additionalProperties\": false",
  "    \x7d,",
  "    \"autorebuild\": \x7b",
  "      \"type\": [\"object\", \"null\"],",
  "      \"properties\": \x7b",
  "        \"from_latest\": \x7b\"type\": \"boolean\"\x7d,",
  "        \"add_timestamp_to_release\": \x7b\"type\": \"boolean\"\x7d,",
  "        \"ignore_isolated_builds\": \x7b\"type\": \"boolean\"\x7d",
  "      \x7d,",
  "      \"additionalProperties\": false",
  "    \x7d,",
  "    \"compose\": \x7b",
  "      \"type\": [\"object\", \"null\"],",
  "      \"properties\": \x7b",
  "        \"packages\": \x7b",
  "          \"type\": [\"array\", \"null\"],",
  "          \"items\": \x7b\"type\": \"string\"\x7d",
  "        \x7d,",
  "        \"modules\": \x7b",
  "          \"type\": [\"array\", \"null\"],",
  "          \"items\": \x7b\"type\": \"string\"\x7d",
  "        \x7d,",
  "        \"pulp_repos\": \x7b\"type\": \"boolean\"\x7d,",
  "        \"signing_intent\": \x7b\"type\": \"string\"\x7d,",
  "        \"inherit\": \x7b\"type\": \"boolean\"\x7d,",
  "        \"include_unpublished_pulp_repos\": \x7b\"type\": \"boolean\"\x7d,",
  "        \"ignore_absent_pulp_repos\": \x7b\"type\": \"boolean\"\x7d,",
  "        \"build_only_content_sets\": \x7b\"type\": \"boolean\"\x7d",
  "      \x7d,",
  "      \"additionalProperties\": false",
  "    \x7d,",
  "    \"flatpak\": \x7b",
  "      \"type\": [\"object\", \"null\"],",
  "      \"properties\": \x7b",
  "        \"id\": \x7b\"type\": \"string\"\x7d,",
  "        \"name\": \x7b\"type\": \"string\"\x7d,",
  "        \"component\": \x7b\"type\": \"string\"\x7d,",
  "        \"branch\": \x7b\"type\": \"string\"\x7d,",
  "        \"base_image\": \x7b\"type\": \"string\"\x7d,",
  "        \"command\": \x7b\"type\": \"string\"\x7d,",
  "        \"tags\": \x7b",
  "          \"type\": \"array\",",
  "          \"items\": \x7b\"type\": \"string\"\x7d",
  "        \x7d,",
  "        \"finish-args\": \x7b\"type\": \"string\"\x7d,",
  "        \"cleanup-commands\": \x7b\"type\": \"string\"\x7d",
  "      \x7d,",
  "      \"additionalProperties\": false",
  "    \x7d,",
  "    \"tags\": \x7b",
  "      \"type\": [\"array\", \"null\"],",
  "      \"items\": \x7b\"type\": \"string\"\x7d",
  "    \x7d,",
  "    \"image_build_method\": \x7b",
  "      \"type\": \"string\",",
  "      \"enum\": [\"docker_api\", \"imagebuilder\"]",
  "    \x7d,",
  "    \"set_release_env\": \x7b",
  "      \"type\": \"string\",",
  "      \"pattern\": \"^[A-Za-z_][A-Za-z0-9_]*$\"",
  "    \x7d,",
  "    \"go\": \x7b",
  "      \"type\": [\"object\", \"null\"],",
  "      \"properties\": \x7b",
  "        \"modules\": \x7b",
  "          \"type\": \"array\",",
  "          \"items\": \x7b\"$ref\": \"#/definitions/go_module\"\x7d",
  "        \x7d",
  "      \x7d,",
  "      \"additionalProperties\": false",
  "    \x7d",
  "  \x7d,",
  "  \"definitions\": \x7b",
  "    \"platform_list\": \x7b",
  "      \"anyOf\": [",
  "        \x7b\"type\": \"string\"\x7d,",
  "        \x7b",
  "          \"type\": \"array\",",
  "          \"items\": \x7b\"type\": \"string\"\x7d,",
  "          \"uniqueItems\": true",
  "        \x7d,",
  "        \x7b\"type\": \"null\"\x7d",
  "      ]",
  "    \x7d,",
  "    \"go_module\": \x7b",
  "      \"type\": \"object\",",
  "      \"properties\": \x7b",
  "        \"module\": \x7b\"type\": \"string\", \"minLength\": 1\x7d,",
  "        \"path\": \x7b\"type\": \"string\"\x7d",
  "      \x7d,",
  "      \"required\": [\"module\"],",
  "      \"additionalProperties\": false",
  "    \x7d",
  "  \x7d",
  "\x7d"
]

/-- The text of the schema of container files, each line ended. -/
def containerText : String :=
  String.ofList (containerLines.flatMap fun line => line.toList ++ ['\n'])

end ImageBuild.Schema
