/-
# Project files made on request

Files that a project of the bot needs and that are created when they are missing.  The
environment file holds placeholders that the operator must replace before the bot can log
in.
-/
import BotKeeper.Text.Blank

namespace BotKeeper.Templates

/-- Lines with a line end behind each. -/
def text (lines : List String) : String := String.join (lines.map (· ++ "\n"))

/-- What the operator must replace in the environment file. -/
def placeholders : List String := ["your_discord_token_here", "your_client_id_here"]

/-- The placeholders that a text still holds. -/
def unfilled (env : String) : List String := placeholders.filter (Text.contains env)

/-- The environment file. -/
def environmentFile : String :=
  text
    ["# Discord Bot Configuration",
     "DISCORD_TOKEN=your_discord_token_here",
     "CLIENT_ID=your_client_id_here",
     "COMMAND_PREFIX=!",
     "DEV_GUILD_ID=your_development_server_id_here  # Optional, for faster slash command updates",
     "",
     "# Feature Flags",
     "REGISTER_COMMANDS=true",
     "ENABLE_PLURALKIT=true",
     "",
     "# API Endpoints",
     "PLURALKIT_API=https://api.pluralkit.me/v2",
     "",
     "# Admin Configuration",
     "OWNER_IDS=your_discord_id_here  # Comma-separated list of Discord user IDs",
     "",
     "# Data Settings",
     "DATA_PATH=./data"]

/-- The description of the npm package. -/
def packageFile : String :=
  text
    ["\x7b",
     "  \"name\": \"the-vixen\",",
     "  \"version\": \"1.0.0\",",
     "  \"description\": \"A TypeScript Discord bot for Pathfinder 2E with dice rolling and PluralKit integration\",",
     "  \"main\": \"dist/index.js\",",
     "  \"scripts\": \x7b",
     "    \"build\": \"tsc\",",
     "    \"start\": \"node dist/index.js\",",
     "    \"dev\": \"ts-node src/index.ts\",",
     "    \"watch\": \"tsc --watch\"",
     "  \x7d,",
     "  \"keywords\": [",
     "    \"discord\",",
     "    \"bot\",",
     "    \"pathfinder\",",
     "    \"dice\",",
     "    \"pluralkit\"",
     "  ],",
     "  \"author\": \"\",",
     "  \"license\": \"MIT\",",
     "  \"dependencies\": \x7b",
     "    \"discord.js\": \"^14.11.0\",",
     "    \"dotenv\": \"^16.0.3\"",
     "  \x7d,",
     "  \"devDependencies\": \x7b",
     "    \"@types/node\": \"^18.16.3\",",
     "    \"ts-node\": \"^10.9.1\",",
     "    \"typescript\": \"^5.0.4\"",
     "  \x7d",
     "\x7d"]

/-- The settings of the TypeScript compiler. -/
def compilerFile : String :=
  text
    ["\x7b",
     "  \"compilerOptions\": \x7b",
     "    \"target\": \"ES2020\",",
     "    \"module\": \"commonjs\",",
     "    \"lib\": [\"ES2020\"],",
     "    \"outDir\": \"./dist\",",
     "    \"rootDir\": \"./src\",",
     "    \"strict\": true,",
     "    \"esModuleInterop\": true,",
     "    \"skipLibCheck\": true,",
     "    \"forceConsistentCasingInFileNames\": true,",
     "    \"resolveJsonModule\": true,",
     "    \"moduleResolution\": \"node\",",
     "    \"declaration\": true,",
     "    \"sourceMap\": true",
     "  \x7d,",
     "  \"include\": [",
     "    \"src/**/*\"",
     "  ],",
     "  \"exclude\": [",
     "    \"node_modules\",",
     "    \"**/*.test.ts\"",
     "  ]",
     "\x7d"]

end BotKeeper.Templates
